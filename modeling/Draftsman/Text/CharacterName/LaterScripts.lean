/-
# Draftsman.Text.CharacterName.LaterScripts -- more scripts, U+2C00 to U+FFFF

The table is written in the notation of `Draftsman.Text.CharacterName` (version 14 of
the character standard).
-/

namespace Draftsman.Text.CharacterName

set_option autoImplicit false

/-- The names of the characters from U+2C00 to U+FFFF: further scripts, parts of
ideographs, syllables, and the compatibility forms of letters. -/
def laterScripts : String :=
  "@2C00.0GLAGOLITIC cAZU.QBUKY.QVEDE.QGLAGOLI.QDOBRO.QYESTU.QZHIVETE.QDZELO.QZEMLJA.QIZHE.
RNITIAL IZHE.R.QDJERVI.QKAKO.QLJUDIJE.QMYSLITE.QNASHI.QONU.QPOKOJI.QRITSI.QSLOVO.QTVRIDO.QUKU.
QFRITU.QHERU.QOTU.QPE.QSHTA.QTSI.QCHRIVI.QSHA.QYERU.TI.RATI.QSPIDERY HA.QYU.QmYUS.ZwTAIL.QYO.
QIOTATED mYUS.QBIG YUS.QIOTATED BIG YUS.QFITA.QIZHITSA.QSHTAPIC.QTROKUTASTI A.QLATINATE MYSLITE.
QCAUDATE CHRIVI.BsAZU.OBUKY.OVEDE.OGLAGOLI.ODOBRO.OYESTU.OZHIVETE.ODZELO.OZEMLJA.OIZHE.
PNITIAL IZHE.P.ODJERVI.OKAKO.OLJUDIJE.OMYSLITE.ONASHI.OONU.OPOKOJI.ORITSI.OSLOVO.OTVRIDO.OUKU.
OFRITU.OHERU.OOTU.OPE.OSHTA.OTSI.OCHRIVI.OSHA.OYERU.RI.PATI.OSPIDERY HA.OYU.OmYUS.XwTAIL.OYO.
OIOTATED mYUS.OBIG YUS.OIOTATED BIG YUS.OFITA.OIZHITSA.OSHTAPIC.OTROKUTASTI A.OLATINATE MYSLITE.
OCAUDATE CHRIVI.0LATIN cLwdBAR.6sLwdBAR.6cLwMIDDLE TILDE.LPwSTROKE.LRwTAIL.6sAwSTROKE.
JTwDIAGONAL STROKE.6cHwDESCENDER.6sHwDESCENDER.6cKwDESCENDER.6sKwDESCENDER.6cZwDESCENDER.
6sZwDESCENDER.6cALPHA.LMwHOOK.LTURNED A.TLPHA.6sVwh HOOK.6cWwHOOK.6sWwHOOK.JVwCURL.6cHALF H.
6sHALF H.JTAILLESS PHI.JEwNOTCH.JTURNED RwTAIL.JOwLOW Rg INSIDE.6lmCAPITAL TURNED E.
6SUBSCRIPT sJ.0MODIFIER lCAPITAL V.0LATIN cSwSWASH TAIL.LZwSWASH TAIL.0COPTIC cALFA.7sALFA.
7cVIDA.7sVIDA.7cGAMMA.7sGAMMA.7cDALDA.7sDALDA.7cEIE.7sEIE.7cSOU.7sSOU.7cZATA.7sZATA.7cHATE.
7sHATE.7cTHETHE.7sTHETHE.7cIAUDA.7sIAUDA.7cKAPA.7sKAPA.7cLAULA.7sLAULA.7cMI.7sMI.7cNI.7sNI.
7cKSI.7sKSI.7cO.7sO.7cPI.7sPI.7cRO.7sRO.7cSIMA.7sSIMA.7cTAU.7sTAU.7cUA.7sUA.7cFI.7sFI.7cKHI.
7sKHI.7cPSI.7sPSI.7cOOU.7sOOU.7cDIALECT-P ALEF.7sDIALECT-P ALEF.7cOLD COPTIC AIN.
7sOLD COPTIC AIN.7cCRYPTOGRAMMIC EIE.7sCRYPTOGRAMMIC EIE.7cDIALECT-P KAPA.7sDIALECT-P KAPA.
7cDIALECT-P NI.7sDIALECT-P NI.7cCRYPTOGRAMMIC NI.7sCRYPTOGRAMMIC NI.7cOLD COPTIC OOU.
7sOLD COPTIC OOU.7cSAMPI.7sSAMPI.7cCROSSED SHEI.7sCROSSED SHEI.7cOLD COPTIC SHEI.
7sOLD COPTIC SHEI.7cOLD COPTIC ESH.7sOLD COPTIC ESH.7cAKHMIMIC KHEI.7sAKHMIMIC KHEI.
7cDIALECT-P HoI.7sDIALECT-P HoI.7cOLD COPTIC HoI.7sOLD COPTIC HoI.7cOLD COPTIC HA.
7sOLD COPTIC HA.7cL-SHAPED HA.7sL-SHAPED HA.7cOLD COPTIC HEI.7sOLD COPTIC HEI.7cOLD COPTIC HAT.
7sOLD COPTIC HAT.7cOLD COPTIC GANGIA.7sOLD COPTIC GANGIA.7cOLD COPTIC DJA.7sOLD COPTIC DJA.
7cOLD COPTIC SHIMA.7sOLD COPTIC SHIMA.7cOLD NUBIAN SHIMA.7sOLD NUBIAN SHIMA.7cOLD NUBIAN NGI.
7sOLD NUBIAN NGI.7cOLD NUBIAN NYI.7sOLD NUBIAN NYI.7cOLD NUBIAN WAU.7sOLD NUBIAN WAU.8YMBOL KAI.
EMI RO.EPI RO.ESTAUROS.ETAU RO.EKHI RO.ESHIMA SIMA.7cCRYPTOGRAMMIC SHEI.7sCRYPTOGRAMMIC SHEI.
7cCRYPTOGRAMMIC GANGIA.7sCRYPTOGRAMMIC GANGIA.7COMBINg NIe.HSPIRITUS ASPER.QLENIS.
8APITAL lBOHAIRIC KHEI.7sBOHAIRIC KHEI.@2CF9.7OLD NUBIAN FULL STOP.IDIRECT QUESy MARK.
IINDIRECT QUESy MARK.IVERSE DIVIDER.7FRACy ONE HALF.8ULL STOP.7MoPHOLOGICAL DIVIDER.
0GEoGIAN sAN.MBAN.MGAN.MDON.MEN.MVIN.MZEN.MTAN.MIN.MKAN.MLAS.MMAN.MNAR.MON.MPAR.MZHAR.MRAE.MSAN.
MTAR.MUN.MPHAR.MKHAR.MGHAN.MQAR.MSHIN.MCHIN.NAN.MJIL.MCIL.NHAR.MXAN.MJHAN.MHAE.NE.NIE.MWE.MHAR.
NOE.@2D27.MYN.@2D2D.MAEN.@2D30.0TIFINAGH lYA.IB.JH.IG.JHH.GBERBER ACADEMY YAJ.GYAJ.ID.JH.JD.KH.
HEY.HAF.IK.GTUAREG YAK.GYAKHH.IH.GBERBER ACADEMY YAH.GTUAREG YAH.GYAHH.IA.IKH.GTUAREG YAKH.GYAQ.
GTUAREG YAQ.GYI.HAZH.GAHAGGAR YAZH.GTUAREG YAZH.GYAL.IM.IN.GTUAREG YAGN.PNG.GYAP.HU.HAR.JR.IGH.
GTUAREG YAGH.GAYER YAGH.GYAS.JS.JH.IT.JH.ICH.ITT.IV.IW.IY.IZ.GTAWELLEMET YAZ.GYAZZ.HE.HO.@2D6F.
9MODIFIER lLABIALIZAy MARK.9SEPARATo MARK.@2D7F.9CONSONANT JOINER.0ETHIOPIC SYLLABLE LOA.IMOA.
IROA.ISOA.JHOA.IBOA.ITOA.ICOA.INOA.JYOA.IGLOTTAL OA.IZOA.IDOA.JDOA.IJOA.ITHOA.ICHOA.IPHOA.JOA.
IGGWA.LI.LEE.M.@2DA0.ISSA.KU.KI.KAA.KEE.L.KO.@2DA8.ICCA.KU.KI.KAA.KEE.L.KO.@2DB0.IZZA.KU.KI.KAA.
KEE.L.KO.@2DB8.ICCHA.LU.LI.LAA.LEE.M.LO.@2DC0.IQYA.KU.KI.KAA.KEE.L.KO.@2DC8.IKYA.KU.KI.KAA.KEE.
L.KO.@2DD0.IXYA.KU.KI.KAA.KEE.L.KO.@2DD8.IGYA.KU.KI.KAA.KEE.L.KO.@2DE0.0COMBINg CYRILLIC lBE.
QVE.QGHE.QDE.QZHE.RE.QKA.QEL.RM.RN.QO.QPE.QER.RS.QTE.QHA.QTSE.QCHE.QSHA.SCHA.QFITA.QES-TE.QA.
QIE.QDJERV.QMONOGRAPH UK.QYAT.RU.QIOTIFIED A.QLITTLE YUS.QBIG YUS.QIOTIFIED BIG YUS.
0h ANGLE SUBSTITUy MARKER.CDOTTED SUBSTITUy MARKER.0t SUBSTITUy BRACKET.0h SUBSTITUy BRACKET.
0t DOTTED SUBSTITUy BRACKET.0h DOTTED SUBSTITUy BRACKET.1AISED INTERPOLAy MARKER.
7DOTTED INTERPOLAy MARKER.0DOTTED TRANSPOSIy MARKER.0t TRANSPOSIy BRACKET.0h TRANSPOSIy BRACKET.
1AISED SQUARE.0t RAISED OMISSION BRACKET.0h RAISED OMISSION BRACKET.0EDIToIAL CoONIS.
0PARAGRAPHOS.0FoKED PARAGRAPHOS.0REVERSED FoKED PARAGRAPHOS.0HYPODIASTOLE.0DOTTED OBELOS.
2WNuANCoA.0UPuANCoA.0DOTTED h-zANGLE.2UBLE OBLIQUE HYPHEN.0INVERTED INTERROBANG.0PALM BRANCH.
0HYPHENwDIAERESIS.0TILDEwRge.0t LOW PARAPHRASE BRACKET.0h LOW PARAPHRASE BRACKET.0TILDEwDOTe.
FBELOW.0t qBARwQUILL.0h qBARwQUILL.0TOP t HALF BRACKET.4h HALF BRACKET.0BOTTOM t HALF BRACKET.
7h HALF BRACKET.0t SIDEWAYS U BRACKET.0h SIDEWAYS U BRACKET.0t dPARENTHESIS.0h dPARENTHESIS.
0TWO DOTS OVER ONE DOT PUNCTUAy.0ONE DOT OVER TWO DOTS PUNCTUAy.0SQUARED FOUR DOT PUNCTUAy.
0FIVE DOT MARK.0REVERSED QUESy MARK.0qTILDE.0Rg POINT.0WoD SEPARATo MIDDLE DOT.0TURNED COMMA.
0RAISED DOT.7COMMA.0TURNED SEMICOLON.0DAGGERwt GUARD.Ch GUARD.0TURNED DAGGER.1OP HALF SECyx.
1WO-EM DASH.1HREE-EM DASH.0STENOGRAPHIC FULL STOP.0qSIX DOTS.0WIGGLY qLINE.0CAPITULUM.0dHYPHEN.
0REVERSED COMMA.0dLOW-REVERSED-9 QUOTAy MARK.1ASHwt UPTURN.1OUBLE SUSPENSION MARK.
0INVERTED LOW KAVYKA.JwKAVYKAe.0LOW KAVYKA.AwDOT.0dSTACKED COMMA.2TTED SOLIDUS.0TRIPLE DAGGER.
0MEDIEVAL COMMA.0PARAGRAPHUS MARK.1UNCTUS ELEVATUS MARK.0CoNISH VERSE DIVIDER.
1ROSS PATTYwh CROSSBAR.Ht CROSSBAR.0TIRONIANx CAPITAL ET.0MEDIEVAL EXCLAMAy MARK.9QUESy MARK.
0t SQUARE BRACKETwSTROKE.0h SQUARE BRACKETwSTROKE.0t SQUARE BRACKETwdSTROKE.
0h SQUARE BRACKETwdSTROKE.0TOP HALF t PARENTHESIS.9h PARENTHESIS.0BOTTOM HALF t PARENTHESIS.
Ch PARENTHESIS.0OBLIQUE HYPHEN.@2E80.0CJK RADICAL REPEAT.CCLIFF.CSECOND ONE.JTWO.KHREE.CPERSON.
CBOX.CTABLE.CKNIFE ONE.ITWO.CDIVINAy.CSEAL.DMALL ONE.ITWO.CLAME ONE.HTWO.IHREE.HFOUR.CSNAKE.
CTHREAD.CSNOUT ONE.ITWO.CHEART ONE.ITWO.DAND.CRAP.@2E9B.CCHOKE.CSUN.CMOON.CDEATH.CMOTHER.
CCIVILIAN.CWATER ONE.ITWO.CFIRE.CPAW ONE.GTWO.CSIMPLIFIED HALF TREE TRUNK.CCOW.CDOG.CJADE.
CBOLT OF CLOTH.CEYE.CSPIRIT ONE.JTWO.CBAMBOO.CSILK.CC-SIMPLIFIED SILK.CNET ONE.GTWO.HHREE.GFOUR.
CMESH.CSHEEP.CRAM.CEWE.COLD.CBRUSH ONE.ITWO.CMEAT.DoTAR.CGRASS ONE.ITWO.JHREE.CTIGER.CCLOTHES.
CWEST ONE.HTWO.CC-SIMPLIFIED SEE.CSIMPLIFIED HoN.CHoN.CC-SIMPLIFIED SPEECH.QHELL.CFOOT.
CC-SIMPLIFIED CART.CSIMPLIFIED WALK.CWALK ONE.HTWO.CCITY.D-SIMPLIFIED GOLD.CLONG ONE.HTWO.
CC-SIMPLIFIED LONG.PGATE.CMOUND ONE.ITWO.CRAIN.CBLUE.CC-SIMPLIFIED TANNED LEATHER.PLEAF.PWIND.
PFLY.CEAT ONE.GTWO.HHREE.CC-SIMPLIFIED EAT.CHEAD.CC-SIMPLIFIED HoSE.CBONE.CGHOST.
CC-SIMPLIFIED FISH.PBIRD.PSALT.CSIMPLIFIED WHEAT.NYELLOW.CC-SIMPLIFIED FROG.CJ-SIMPLIFIED EVEN.
CC-SIMPLIFIED EVEN.CJ-SIMPLIFIED TOOTH.CC-SIMPLIFIED TOOTH.CJ-SIMPLIFIED DRAGON.
CC-SIMPLIFIED DRAGON.CTURTLE.CJ-SIMPLIFIED TURTLE.CC-SIMPLIFIED TURTLE.@2F00.
0KANGXI RADICAL ONE.FLINE.FDOT.FSLASH.GECOND.FHOOK.FTWO.FLID.FMAN.FLEGS.FENTER.GIGHT.FDOWN BOX.
FCOVER.FICE.FTABLE.FOPEN BOX.FKNIFE.FPOWER.FWRAP.FSPOON.Fh OPEN BOX.FHIDg ENCLOSURE.FTEN.
FDIVINAy.FSEAL.FCLIFF.FPRIVATE.FAGAIN.FMOUTH.FENCLOSURE.GARTH.FSCHOLAR.FGO.H SLOWLY.FEVENg.FBIG.
FWOMAN.FCHILD.FROOF.FINCH.FSMALL.FLAME.FCoPSE.FSPROUT.FMOUNTAIN.FRIVER.FWoK.FONESELF.FTURBAN.
FDRY.FSHoT THREAD.FDOTTED CLIFF.FLONG STRIDE.FTWO HANDS.FSHOOT.FBOW.FSNOUT.FBRISTLE.FSTEP.
FHEART.GALBERD.FDOo.FHAND.FBRANCH.FRAP.FSCRIPT.FDIPPER.FAXE.FSQUARE.FNOT.FSUN.GAY.FMOON.FTREE.
FLACK.FSTOP.FDEATH.FWEAPON.FDO NOT.FCOMPARE.FFUR.FCLAN.FSTEAM.FWATER.FFIRE.FCLAW.FFATHER.FdX.
FHALF TREE TRUNK.FSLICE.FFANG.FCOW.FDOG.FPROFOUND.FJADE.FMELON.FTILE.FSWEET.FLIFE.FUSE.FFIELD.
FBOLT OF CLOTH.FSICKNESS.FDOTTED TENT.FWHITE.FSKIN.FDISH.FEYE.FSPEAR.Fr.FSTONE.GPIRIT.FTRACK.
FGRAIN.FCAVE.FSTAND.FBAMBOO.FRICE.FSILK.FJAR.FNET.FSHEEP.FFEATHER.FOLD.FAND.FPLOW.FEAR.FBRUSH.
FMEAT.GINISTER.FSELF.FARRIVE.FMoTAR.FTONGUE.FOPPOSE.FBOAT.FSTOPPg.FCOLo.FGRASS.FTIGER.FINSECT.
FBLOOD.FWALK ENCLOSURE.FCLOTHES.FWEST.FSEE.FHoN.FSPEECH.FVALLEY.FBEAN.FPIG.FBADGER.FSHELL.FRED.
GUN.FFOOT.FBODY.FCART.FBITTER.FMoNg.FWALK.FCITY.FWINE.FDISTgUISH.FVILLAGE.FGOLD.FLONG.FGATE.
FMOUND.FSLAVE.GHoT TAILED BIRD.FRAIN.FBLUE.FWRONG.FFACE.FLEATHER.FTANNED LEATHER.FLEEK.FSOUND.
FLEAF.FWIND.FFLY.FEAT.FHEAD.FFRAGRANT.FHoSE.FBONE.FTALL.FHAIR.FFIGHT.FSACRIFICIAL WINE.
FCAULDRON.FGHOST.FFISH.FBIRD.FSALT.FDEER.FWHEAT.FHEMP.FYELLOW.FMILLET.FBLACK.FEMBROIDERY.FFROG.
FTRIPOD.FDRUM.FRAT.FNOSE.FEVEN.FTOOTH.FDRAGON.FTURTLE.FFLUTE.@2FF0.
0IDEOGRAPHIC DESCRIPy CHARACTER t TO h.YABOVE TOb.Yt TO MIDDLEah.YABOVE TO MIDDLE ANDb.
YFULL SURROUND.YSURROUND FROMe.ZURROUND FROMb.ZURROUND FROM t.ZURROUND FROM UPPER t.
ZURROUND FROM UPPER h.ZURROUND FROM LOWER t.YOVERLAID.@3000.CSPACE.CCOMMA.CFULL STOP.
0DITTO MARK.0JAPANESE INDUSTRIAL STANDARDp.0IDEOGRAPHIC ITERAy MARK.CCLOSg MARK.CNUMBER ZERO.
0t ANGLE BRACKET.0h ANGLE BRACKET.0t dANGLE BRACKET.0h dANGLE BRACKET.0t CoNER BRACKET.
0h CoNER BRACKET.0t WHITE CoNER BRACKET.0h WHITE CoNER BRACKET.0t BLACK LENTICULAR BRACKET.
0h BLACK LENTICULAR BRACKET.0POSTAL MARK.0GETA MARK.0t ToTOISE SHELL BRACKET.
0h ToTOISE SHELL BRACKET.0t WHITE LENTICULAR BRACKET.0h WHITE LENTICULAR BRACKET.
0t WHITE ToTOISE SHELL BRACKET.0h WHITE ToTOISE SHELL BRACKET.0t WHITE SQUARE BRACKET.
0h WHITE SQUARE BRACKET.0WAVE DASH.0REVERSED dPRIME QUOTAy MARK.0dPRIME QUOTAy MARK.
0LOW dPRIME QUOTAy MARK.0POSTAL MARK FACE.0HANGZHOU NUMERAL ONE.HTWO.IHREE.HFOUR.IIVE.HSIX.
IEVEN.HEIGHT.HNINE.0IDEOGRAPHIC LEVEL TONE MARK.CRISg TONE MARK.CDEPARTg TONE MARK.
CENTERg TONE MARK.0HANGUL SgLE DOT TONE MARK.7dDOT TONE MARK.0WAVY DASH.0qKANA REPEAT MARK.
LWITH VOICED SOUND MARK.LMARK UPPER HALF.LWITH VOICED SOUND MARK UPPER HALF.LMARK LOWER HALF.
0nD POSTAL MARK.0IDEOGRAPHIC TELEGRAPH LINE FEED SEPARATop.0HANGZHOU NUMERAL TEN.IWENTY.IHIRTY.
0qIDEOGRAPHIC ITERAy MARK.0MASU MARK.0PART ALTERNAy MARK.0IDEOGRAPHIC VARIAy INDICATo.
CHALF FILL SPACE.@3041.0HIRAGANA lmA.GA.GmI.GI.GmU.GU.GmE.GE.GmO.GO.GKA.GGA.GKI.GGI.GKU.GGU.GKE.
GGE.GKO.GGO.GSA.GZA.GSI.GZI.GSU.GZU.GSE.GZE.GSO.GZO.GTA.GDA.GTI.GDI.GmTU.GTU.GDU.GTE.GDE.GTO.
GDO.GNA.HI.HU.HE.HO.GHA.GBA.GPA.GHI.GBI.GPI.GHU.GBU.GPU.GHE.GBE.GPE.GHO.GBO.GPO.GMA.HI.HU.HE.HO.
GmYA.GYA.GmYU.GYU.GmYO.GYO.GRA.HI.HU.HE.HO.GmWA.GWA.HI.HE.HO.GN.GVU.GmKA.NE.@3099.
0COMBINg KATAKANA-HIRAGANA VOICED SOUND MARK.SSEMI-VOICED SOUND MARK.
0KATAKANA-HIRAGANA VOICED SOUND MARK.ISEMI-VOICED SOUND MARK.0HIRAGANA ITERAy MARK.
9VOICED ITERAy MARK.9DIGRAPH YoI.0KATAKANA-HIRAGANA dHYPHEN.8 lmA.GA.GmI.GI.GmU.GU.GmE.GE.GmO.
GO.GKA.GGA.GKI.GGI.GKU.GGU.GKE.GGE.GKO.GGO.GSA.GZA.GSI.GZI.GSU.GZU.GSE.GZE.GSO.GZO.GTA.GDA.GTI.
GDI.GmTU.GTU.GDU.GTE.GDE.GTO.GDO.GNA.HI.HU.HE.HO.GHA.GBA.GPA.GHI.GBI.GPI.GHU.GBU.GPU.GHE.GBE.
GPE.GHO.GBO.GPO.GMA.HI.HU.HE.HO.GmYA.GYA.GmYU.GYU.GmYO.GYO.GRA.HI.HU.HE.HO.GmWA.GWA.HI.HE.HO.GN.
GVU.GmKA.NE.GVA.HI.HE.HO.9MIDDLE DOT.8-HIRAGANA PROLONGED SOUND MARK.8 ITERAy MARK.
9VOICED ITERAy MARK.9DIGRAPH KOTO.@3105.0BOPOMOFO lB.GP.GM.GF.GD.GT.GN.GL.GG.GK.GH.GJ.GQ.GX.GZH.
GCH.GSH.GR.GZ.GC.GS.GA.GO.GE.HH.GAI.GEI.GAU.GOU.GAN.GEN.GANG.GENG.HR.GI.GU.GIU.GV.GNG.GGN.GIH.
GOwDOTe.GNN.@3131.0HANGUL lKIYEOK.ESSANGKIYEOK.EKIYEOK-SIOS.ENIEUN.J-CIEUC.KHIEUH.ETIKEUT.
ESSANGTIKEUT.ERIEUL.J-KIYEOK.KMIEUM.KPIEUP.KSIOS.KTHIEUTH.KPHIEUPH.KHIEUH.EMIEUM.EPIEUP.
ESSANGPIEUP.EPIEUP-SIOS.ESIOS.FSANGSIOS.EIEUNG.ECIEUC.ESSANGCIEUC.ECHIEUCH.EKHIEUKH.ETHIEUTH.
EPHIEUPH.EHIEUH.EA.FE.EYA.GE.EEO.F.EYEO.G.EO.EWA.GE.EOE.EYO.EU.EWEO.G.FI.EYU.EEU.EYI.EI.7FILLER.
7lSSANGNIEUN.ENIEUN-TIKEUT.KSIOS.KPANSIOS.ERIEUL-KIYEOK-SIOS.KTIKEUT.KPIEUP-SIOS.LANSIOS.
KYEoINHIEUH.EMIEUM-PIEUP.KSIOS.KPANSIOS.EKAPYEOUNMIEUM.EPIEUP-KIYEOK.KTIKEUT.KSIOS-KIYEOK.
PTIKEUT.KCIEUC.KTHIEUTH.EKAPYEOUNPIEUP.MSSANGPIEUP.ESIOS-KIYEOK.JNIEUN.JTIKEUT.JPIEUP.JCIEUC.
EPANSIOS.ESSANGIEUNG.EYESIEUNG.M-SIOS.NPANSIOS.EKAPYEOUNPHIEUPH.ESSANGHIEUH.EYEoINHIEUH.FO-YA.
JE.HI.FU-YEO.J.HI.EARAEA.JE.@3190.0IDEOGRAPHIC ANNOTAy LINKg MARK.NREVERSE MARK.NONE MARK.
NTWO MARK.OHREE MARK.NFOUR MARK.NTOP MARK.NMIDDLE MARK.NBOTTOM MARK.NFIRST MARK.NSECOND MARK.
NTHIRD MARK.NFOURTH MARK.NHEAVEN MARK.NEARTH MARK.NMAN MARK.0BOPOMOFO lBU.GZI.GJI.GGU.GEE.HNN.
GOO.HNN.GIR.GANN.GINN.GUNN.GIM.GNGG.GAINN.HUNN.HM.GOM.HNG.GINNN.9FINAL lP.MT.MK.MH.9lGH.GLH.GZY.
9FINAL lG.9lGW.GKW.GOE.GAH.0CJK STROKE T.BWG.BXG.BBXG.BSW.BHZZ.DG.CP.CZWG.BSZWG.BHZT.DZP.CPWG.
CZW.DZZ.BN.BH.BS.BP.BSP.BD.BHZ.CG.BSZ.CWZ.CT.CG.BPD.CZ.BTN.BSZZ.CWG.BHXWG.CZZZG.BPG.BQ.@31F0.
0KATAKANA lmKU.MSI.NU.MTO.MNU.MHA.NI.NU.NE.NO.MMU.MRA.NI.NU.NE.NO.0PARENTHESIZED HANGUL KIYEOK.
LNIEUN.LTIKEUT.LRIEUL.LMIEUM.LPIEUP.LSIOS.LIEUNG.LCIEUC.MHIEUCH.LKHIEUKH.LTHIEUTH.LPHIEUPH.
LHIEUH.LKIYEOK A.LNIEUN A.LTIKEUT A.LRIEUL A.LMIEUM A.LPIEUP A.LSIOS A.LIEUNG A.LCIEUC A.
MHIEUCH A.LKHIEUKH A.LTHIEUTH A.LPHIEUPH A.LHIEUH A.LCIEUC U.EKoEAN CHARACTER OJEON.W HU.@3220.
EIDEOGRAPH ONE.OTWO.PHREE.OFOUR.PIVE.OSIX.PEVEN.OEIGHT.ONINE.OTEN.OMOON.OFIRE.OWATER.POOD.
OMETAL.OEARTH.OSUN.PTOCK.OHAVE.OSOCIETY.ONAME.OSPECIAL.OFINANCIAL.OCONGRATULAy.OLABo.OREPRESENT.
OCALL.OSTUDY.PUPERVISE.OENTERPRISE.ORESOURCE.OALLIANCE.OFESTIVAL.OREST.OSELF.OREACH.
0nD IDEOGRAPH QUESy.IKINDERGARTEN.ISCHOOL.IKOTO.8NUMBER TEN ON BLACK SQUARE.
GWENTY ON BLACK SQUARE.GHIRTY ON BLACK SQUARE.FFoTY ON BLACK SQUARE.GIFTY ON BLACK SQUARE.
FSIXTY ON BLACK SQUARE.GEVENTY ON BLACK SQUARE.FEIGHTY ON BLACK SQUARE.0PARTNERSHIPx.
0nD NUMBER TWENTY ONE.MTWO.NHREE.MFOUR.NIVE.MSIX.NEVEN.MEIGHT.MNINE.GHIRTY.L ONE.MTWO.NHREE.
MFOUR.NIVE.8HANGUL KIYEOK.FNIEUN.FTIKEUT.FRIEUL.FMIEUM.FPIEUP.FSIOS.FIEUNG.FCIEUC.GHIEUCH.
FKHIEUKH.FTHIEUTH.FPHIEUPH.FHIEUH.FKIYEOK A.FNIEUN A.FTIKEUT A.FRIEUL A.FMIEUM A.FPIEUP A.
FSIOS A.FIEUNG A.FCIEUC A.GHIEUCH A.FKHIEUKH A.FTHIEUTH A.FPHIEUPH A.FHIEUH A.
8KoEAN CHARACTER CHAMKO.PJUEUI.8HANGUL IEUNG U.0KoEAN STANDARDp.0nD IDEOGRAPH ONE.ITWO.JHREE.
IFOUR.JIVE.ISIX.JEVEN.IEIGHT.ININE.ITEN.IMOON.IFIRE.IWATER.JOOD.IMETAL.IEARTH.ISUN.JTOCK.IHAVE.
ISOCIETY.INAME.ISPECIAL.IFINANCIAL.ICONGRATULAy.ILABo.ISECRET.IMALE.IFEMALE.ISUITABLE.
IEXCELLENT.IPRINT.IATTENy.IITEM.IREST.ICOPY.KRRECT.IHIGH.ICENTRE.ILOW.JEFT.Ih.IMEDICINE.
IRELIGION.ISTUDY.JUPERVISE.IENTERPRISE.IRESOURCE.IALLIANCE.INIGHT.8NUMBER THIRTY SIX.NEVEN.
MEIGHT.MNINE.FFoTY.K ONE.LTWO.MHREE.LFOUR.MIVE.LSIX.MEVEN.LEIGHT.LNINE.GIFTY.
0IDEOGRAPHIC TELEGRAPHp Fo JANUARY.XFEBRUARY.XMARCH.XAPRIL.XMAY.XJUNE.ZLY.XAUGUST.XSEPTEMBER.
XOCTOBER.XNOVEMBER.XDECEMBER.0SQUARE HG.7ERG.8V.0LIMITED LIABILITYx.0nD KATAKANA A.HI.HU.HE.HO.
HKA.II.IU.IE.IO.HSA.II.IU.IE.IO.HTA.II.IU.IE.IO.HNA.II.IU.IE.IO.HHA.II.IU.IE.IO.HMA.II.IU.IE.IO.
HYA.IU.IO.HRA.II.IU.IE.IO.HWA.II.IE.IO.0SQUARE ERA NAME REIWA.7APAATO.8RUHUA.8NPEA.8ARU.7INgU.
9TI.7UON.7ESUKUUDO.8EKAA.7ONSU.8OMU.7KAIRI.9RATTO.AoII.7GARON.9NMA.8IGA.9NII.7KYURII.7GIRUDAA.
7KIRO.BGURAMU.BMEEToU.BWATTO.7GURAMU.DTON.7KURUZEIRO.AOONE.8EESU.8oUNA.9OPO.7SAIKURU.9NTIIMU.
8IRgU.8ENTI.BO.7DAASU.8ESI.8oU.7TON.7NANO.8OTTO.7HAITU.7PAASENTO.ATU.7BAARERU.7PIASUToU.9KURU.
AO.7BIRU.7HUARADDO.9IITO.7BUSSYERU.7HURAN.8EKUTAARU.7PESO.9NIHI.7HERUTU.7PENSU.9EZI.7BEETA.
7POINTO.7BoUTO.7HON.7PONDO.7HOoU.AN.7MAIKURO.ARU.9HHA.9RUKU.9NSYON.8IKURON.9RI.BBAARU.8EGA.BTON.
9EToU.7YAADO.ARU.8UAN.7RITToU.9RA.8UPII.9UBURU.8EMU.9NTOGEN.7WATTO.
0IDEOGRAPHIC TELEGRAPHp Fo HOUR ZERO.ZUR ONE.ZUR TWO.ZUR THREE.ZUR FOUR.ZUR FIVE.ZUR SIX.
ZUR SEVEN.ZUR EIGHT.ZUR NINE.ZUR TEN.ZUR ELEVEN.ZUR TWELVE.ZUR THIRTEEN.ZUR FOURTEEN.
ZUR FIFTEEN.ZUR SIXTEEN.ZUR SEVENTEEN.ZUR EIGHTEEN.ZUR NINETEEN.ZUR TWENTY.ZUR TWENTY-ONE.
ZUR TWENTY-TWO.ZUR TWENTY-THREE.ZUR TWENTY-FOUR.0SQUARE HPA.7DA.7AU.7BAR.7OV.7PC.7DM.9 SQUARED.
ACUBED.7IU.7ERA NAME HEISEI.GSYOUWA.GTAISYOU.GMEIZI.7CoPoAy.7PA AMPS.7NA.7MU A.8A.7KA.8B.7MB.
7GB.7CAL.7KCAL.7PF.7NF.7MU F.AG.8G.7KG.7HZ.7KHZ.7MHZ.7GHZ.7THZ.7MU L.8L.7DL.7KL.7FM.7NM.7MU M.
8M.7CM.7KM.7MM SQUARED.7CM SQUARED.7M SQUARED.7KM SQUARED.7MM CUBED.7CM CUBED.7M CUBED.
7KM CUBED.7M OVER S.F SQUARED.7PA.7KPA.7MPA.7GPA.7RAD.A OVER S.H SQUARED.7PS.7NS.7MU S.8S.7PV.
7NV.7MU V.8V.7KV.7MV MEGA.7PW.7NW.7MU W.8W.7KW.7MW MEGA.7K OHM.7M OHM.7AM.7BQ.7CC.8D.8 OVER KG.
8O.7DB.7GY.7HA.8P.7IN.7KK.8M CAPITAL.8T.7LM.8N.8OG.8X.7MB SMALL.8IL.8OL.7PH.8M.8PM.8R.7SR.8V.
7WB.7V OVER M.7A OVER M.0IDEOGRAPHIC TELEGRAPHp Fo DAY ONE.ZY TWO.ZY THREE.ZY FOUR.ZY FIVE.
ZY SIX.ZY SEVEN.ZY EIGHT.ZY NINE.ZY TEN.ZY ELEVEN.ZY TWELVE.ZY THIRTEEN.ZY FOURTEEN.ZY FIFTEEN.
ZY SIXTEEN.ZY SEVENTEEN.ZY EIGHTEEN.ZY NINETEEN.ZY TWENTY.ZY TWENTY-ONE.ZY TWENTY-TWO.
ZY TWENTY-THREE.ZY TWENTY-FOUR.ZY TWENTY-FIVE.ZY TWENTY-SIX.ZY TWENTY-SEVEN.ZY TWENTY-EIGHT.
ZY TWENTY-NINE.ZY THIRTY.ZY THIRTY-ONE.0SQUARE GAL.@4DC0.0HEXAGRAM Fo THE CREATIVE HEAVEN.
HRECEPTIVE EARTH.DDIFFICULTY AT THE BEGINNg.DYOUTHFUL FOLLY.DWAITg.DCONFLICT.DTHE ARMY.
DHOLDg TOGETHER.DmTAMg.DTREADg.DPEACE.DSTANDSTILL.DFELLOWSHIP.DGREAT POSSESSION.DMODESTY.
DENTHUSIASM.DFOLLOWg.DWoK ON THE DECAYED.DAPPROACH.DCONTEMPLAy.DBITg THROUGH.DGRACE.
DSPLITTg APART.DRETURN.DINNOCENCE.DGREAT TAMg.DMOUTH CoNERS.DGREAT PREPONDERANCE.
DTHE ABYSMAL WATER.HCLgg FIRE.DINFLUENCE.DDURAy.DRETREAT.DGREAT POWER.DPROGRESS.
DDARKENg OF THE LIGHT.DTHE FAMILY.DOPPOSIy.EBSTRUCy.DDELIVERANCE.FCREASE.DINCREASE.
DBREAKTHROUGH.DCOMg TO MEET.DGATHERg TOGETHER.DPUSHg UPWARD.DOPPRESSION.DTHE WELL.DREVOLUy.
DTHE CAULDRON.HAROUSg THUNDER.HKEEPg STILL MOUNTAIN.DDEVELOPMENT.DTHE MARRYg MAIDEN.DABUNDANCE.
DTHE WANDERER.HGENTLE WIND.HJOYOUS LAKE.DDISPERSION.DLIMITAy.DINNER TRUTH.DmPREPONDERANCE.
DAFTER COMPLEy.DBEFoE COMPLEy.@A000.0YI SYLLABLE IT.DX.D.DP.DET.EX.E.EP.CAT.DX.D.DP.CUOX.E.EP.
COT.DX.D.DP.CEX.D.CWU.CBIT.EX.E.EP.EET.FX.F.FP.DAT.EX.E.EP.DUOX.F.FP.DOT.EX.E.EP.DEX.E.EP.DUT.
EX.E.EP.ERX.F.DYT.EX.E.EP.ERX.F.CPIT.EX.E.EP.EEX.F.FP.DAT.EX.E.EP.DUOX.F.FP.DOT.EX.E.EP.DUT.EX.
E.EP.ERX.F.DYT.EX.E.EP.ERX.F.CBBIT.FX.F.FP.FET.GX.G.GP.EAT.FX.F.FP.EUOX.G.GP.EOT.FX.F.FP.EEX.F.
FP.EUT.FX.F.FP.FRX.G.EYT.FX.F.FP.CNBIT.FX.F.FP.FEX.G.GP.EAT.FX.F.FP.EOT.FX.F.FP.EUT.FX.F.FP.FRX.
G.EYT.FX.F.FP.FRX.G.CHMIT.FX.F.FP.FEX.G.GP.EAT.FX.F.FP.EUOX.G.GP.EOT.FX.F.FP.EUT.FX.F.FP.FRX.G.
EYX.F.FP.FRX.G.CMIT.EX.E.EP.EEX.F.FP.DAT.EX.E.EP.DUOT.FX.F.FP.DOT.EX.E.EP.DEX.E.DUT.EX.E.EP.ERX.
F.DYT.EX.E.EP.CFIT.EX.E.EP.DAT.EX.E.EP.DOX.E.EP.DUT.EX.E.EP.ERX.F.DYT.EX.E.EP.CVIT.EX.E.EP.EET.
FX.F.FP.DAT.EX.E.EP.DOT.EX.E.EP.DEX.EP.DUT.EX.E.EP.ERX.F.DYT.EX.E.EP.ERX.F.CDIT.EX.E.EP.EEX.F.
FP.DAT.EX.E.EP.DUOX.F.DOT.EX.E.EP.DEX.E.EP.DUT.EX.E.EP.ERX.F.CTIT.EX.E.EP.EEX.F.FP.DAT.EX.E.EP.
DUOT.FX.F.FP.DOT.EX.E.EP.DEX.E.EP.DUT.EX.E.EP.ERX.F.CDDIT.FX.F.FP.FEX.G.GP.EAT.FX.F.FP.EUOX.G.
GP.EOT.FX.F.FP.EEX.F.FP.EUT.FX.F.FP.FRX.G.CNDIT.FX.F.FP.FEX.G.EAT.FX.F.FP.EOT.FX.F.FP.EEX.F.FP.
EUT.FX.F.FP.FRX.G.CHNIT.FX.F.FP.FET.GX.G.GP.EAT.FX.F.FP.EUOX.G.EOT.FX.FP.EEX.F.FP.EUT.CNIT.EX.E.
EP.EEX.F.FP.DAX.E.EP.DUOX.F.FP.DOT.EX.E.EP.DEX.E.EP.DUT.EX.E.EP.ERX.F.CHLIT.FX.F.FP.FEX.G.GP.
EAT.FX.F.FP.EUOX.G.GP.EOX.F.FP.EEX.F.FP.EUT.FX.F.FP.FRX.G.EYT.FX.F.FP.FRX.G.CLIT.EX.E.EP.EET.FX.
F.FP.DAT.EX.E.EP.DUOT.FX.F.FP.DOT.EX.E.EP.DEX.E.EP.DUT.EX.E.EP.ERX.F.DYT.EX.E.EP.ERX.F.CGIT.EX.
E.EP.EET.FX.F.FP.DAT.EX.E.EP.DUOT.FX.F.FP.DOT.EX.E.EP.DET.EX.E.EP.DUT.EX.E.EP.ERX.F.CKIT.EX.E.
EP.EEX.F.FP.DAT.EX.E.EP.DUOX.F.FP.DOT.EX.E.EP.DET.EX.E.EP.DUT.EX.E.EP.ERX.F.CGGIT.FX.F.FEX.G.GP.
EAT.FX.F.FP.EUOT.GX.G.GP.EOT.FX.F.FP.EET.FX.F.FP.EUT.FX.F.FP.FRX.G.CMGIEX.G.EAT.FX.F.FP.EUOX.G.
GP.EOT.FX.F.FP.EEX.F.FP.EUT.FX.F.FP.FRX.G.CHXIT.FX.F.FP.FET.GX.G.GP.EAT.FX.F.FP.EUOT.GX.G.GP.
EOT.FX.F.FP.EEX.F.FP.CNGIEX.G.GP.EAT.FX.F.FP.EUOT.GX.G.EOT.FX.F.FP.EEX.F.FP.CHIT.EEX.F.DAT.EX.E.
EP.DUOT.FX.F.FP.DOT.EX.E.EP.DEX.E.EP.CWAT.EX.E.EP.DUOX.F.FP.DOX.E.EP.DEX.E.EP.CZIT.EX.E.EP.EEX.
F.FP.DAT.EX.E.EP.DUOX.F.FP.DOT.EX.E.EP.DEX.E.EP.DUT.EX.E.EP.ERX.F.DYT.EX.E.EP.ERX.F.CCIT.EX.E.
EP.EET.FX.F.FP.DAT.EX.E.EP.DUOX.F.FP.DOT.EX.E.EP.DEX.E.EP.DUT.EX.E.EP.ERX.F.DYT.EX.E.EP.ERX.F.
CZZIT.FX.F.FP.FET.GX.G.GP.EAT.FX.F.FP.EOX.F.FP.EEX.F.FP.EUX.F.FP.FRX.G.EYT.FX.F.FP.FRX.G.CNZIT.
FX.F.FP.FEX.G.GP.EAT.FX.F.FP.EUOX.G.EOX.FP.EEX.F.EUX.F.FP.FRX.G.EYT.FX.F.FP.FRX.G.CSIT.EX.E.EP.
EEX.F.FP.DAT.EX.E.EP.DUOX.F.FP.DOT.EX.E.EP.DEX.E.EP.DUT.EX.E.EP.ERX.F.DYT.EX.E.EP.ERX.F.DSIT.FX.
F.FP.FEX.G.GP.EAT.FX.F.FP.EOT.FX.F.FP.EEX.F.FP.EUT.FX.F.FP.EYT.FX.F.FP.FRX.G.CZHAT.FX.F.FP.EUOX.
G.GP.EOT.FX.F.FP.EET.FX.F.FP.EUT.FX.F.FP.FRX.G.EYT.FX.F.FP.FRX.G.CCHAT.FX.F.FP.EUOT.GX.G.GP.EOT.
FX.F.FP.EET.FX.F.FP.EUX.F.FP.FRX.G.EYT.FX.F.FP.FRX.G.CRRAX.F.EUOX.G.EOT.FX.F.FP.EET.FX.F.FP.EUT.
FX.F.FP.FRX.G.EYT.FX.F.FP.FRX.G.CNRAT.FX.F.FP.EOX.F.FP.EET.FX.F.FP.EUT.FX.F.FP.FRX.G.EYT.FX.F.
FP.FRX.G.CSHAT.FX.F.FP.EUOX.G.GP.EOT.FX.F.FP.EET.FX.F.FP.EUT.FX.F.FP.FRX.G.EYT.FX.F.FP.FRX.G.
CRAT.EX.E.EP.DUOX.F.FP.DOT.EX.E.EP.DEX.E.EP.DUT.EX.E.EP.ERX.F.DYT.EX.E.EP.ERX.F.CJIT.EX.E.EP.
EET.FX.F.FP.DUOT.FX.F.FP.DOT.EX.E.EP.DUT.EX.E.EP.ERX.F.DYT.EX.E.EP.ERX.F.CQIT.EX.E.EP.EET.FX.F.
FP.DUOT.FX.F.FP.DOT.EX.E.EP.DUT.EX.E.EP.ERX.F.DYT.EX.E.EP.ERX.F.CJJIT.FX.F.FP.FET.GX.G.GP.EUOX.
G.GP.EOT.FX.F.FP.EUT.FX.F.FP.FRX.G.EYT.FX.F.FP.CNJIT.FX.F.FP.FET.GX.G.GP.EUOX.G.EOT.FX.F.FP.EUX.
F.FP.FRX.G.EYT.FX.F.FP.FRX.G.DYIT.FX.F.FP.FET.GX.G.GP.EUOX.G.GP.EOT.FX.F.FP.EUT.FX.F.FP.CXIT.EX.
E.EP.EET.FX.F.FP.DUOX.F.DOT.EX.E.EP.DYT.EX.E.EP.ERX.F.CYIT.EX.E.EP.EET.FX.F.FP.DUOT.FX.F.FP.DOT.
EX.E.EP.DUT.EX.E.EP.ERX.F.DYT.EX.E.EP.ERX.F.@A490.3RADICAL QOT.BLI.BKIT.BNYIP.BCYP.BSSI.BGGOP.
CEP.BMI.BHXIT.BLYR.BBBUT.BMOP.BYO.BPUT.BHXUO.BTAT.BGA.BZUP.BCYT.BDDUR.BBUR.BGGUO.BNYOP.BTU.BOP.
BJJUT.BZOT.BPYT.BHMO.BYIT.BVUR.BSHY.BVEP.BZA.BJO.BNZUP.BJJY.BGOT.BJJIE.BWO.BDU.BSHUR.BLIE.BCY.
CUOP.CIP.BHXOP.BSHAT.BZUR.BSHOP.BCHE.BZZIET.BNBIE.BKE.@A4D0.0LISU lBA.CPA.DHA.CDA.CTA.DHA.CGA.
CKA.DHA.CJA.CCA.DHA.CDZA.CTSA.EHA.CMA.CNA.CLA.CSA.CZHA.DA.CNGA.CHA.CXA.CHHA.CFA.CWA.CSHA.CYA.
CGHA.CA.DE.CE.DU.CI.CO.CU.DE.DH.COE.CTONE MYA TI.HNA PO.HMYA CYA.LBO.LNA.LJEU.5PUNCTUAy COMMA.
HFULL STOP.0VAI SYLLABLE EE.FN.DHEE.DWEE.GN.DPEE.DBHEE.EEE.DMBEE.DKPEE.DMGBEE.DGBEE.DFEE.DVEE.
DTEE.EHEE.DDHEE.FHEE.DLEE.DREE.DDEE.DNDEE.DSEE.EHEE.DZEE.EHEE.DCEE.DJEE.DNJEE.DYEE.DKEE.DNGGEE.
DGEE.DMEE.DNEE.EYEE.DI.EN.DHI.FN.DWI.FN.DPI.DBHI.EI.DMBI.DKPI.DMGBI.DGBI.DFI.DVI.DTI.EHI.DDHI.
FHI.DLI.DRI.DDI.DNDI.DSI.EHI.DZI.EHI.DCI.DJI.DNJI.DYI.DKI.DNGGI.DGI.DMI.DNI.EYI.DA.EN.DNGAN.DHA.
FN.DWA.FN.DPA.DBHA.EA.DMBA.DKPA.GN.DMGBA.DGBA.DFA.DVA.DTA.EHA.DDHA.FHA.DLA.DRA.DDA.DNDA.DSA.EHA.
DZA.EHA.DCA.DJA.DNJA.DYA.DKA.FN.DNGGA.DGA.DMA.DNA.EYA.DOO.FN.DHOO.DWOO.GN.DPOO.DBHOO.EOO.DMBOO.
DKPOO.DMGBOO.DGBOO.DFOO.DVOO.DTOO.EHOO.DDHOO.FHOO.DLOO.DROO.DDOO.DNDOO.DSOO.EHOO.DZOO.EHOO.DCOO.
DJOO.DNJOO.DYOO.DKOO.DNGGOO.DGOO.DMOO.DNOO.EYOO.DU.EN.DHU.FN.DWU.FN.DPU.DBHU.EU.DMBU.DKPU.DMGBU.
DGBU.DFU.DVU.DTU.EHU.DDHU.FHU.DLU.DRU.DDU.DNDU.DSU.EHU.DZU.EHU.DCU.DJU.DNJU.DYU.DKU.DNGGU.DGU.
DMU.DNU.EYU.DO.EN.DNGON.DHO.FN.DWO.FN.DPO.DBHO.EO.DMBO.DKPO.DMGBO.DGBO.GN.DFO.DVO.DTO.EHO.DDHO.
FHO.DLO.DRO.DDO.DNDO.DSO.EHO.DZO.EHO.DCO.DJO.DNJO.DYO.DKO.DNGGO.DGO.DMO.DNO.EYO.DE.EN.DNGEN.DHE.
FN.DWE.FN.DPE.DBHE.EE.DMBE.DKPE.GN.DMGBE.DGBE.GN.DFE.DVE.DTE.EHE.DDHE.FHE.DLE.DRE.DDE.DNDE.DSE.
EHE.DZE.EHE.DCE.DJE.DNJE.DYE.DKE.DNGGE.HN.DGE.FN.DME.DNE.EYE.EG.DLENGTHENER.4COMMA.4FULL STOP.
4QUESy MARK.4SYLLABLE NDOLE FA.JKA.JSOO.6MBOL FEENG.BKEENG.BTg.BNII.BBANG.BFAA.BTAA.BDANG.COONG.
BKUNG.BTONG.BDO-O.BJONG.4DIGIT ZERO.AONE.ATWO.BHREE.AFOUR.BIVE.ASIX.BEVEN.AEIGHT.ANINE.
4SYLLABLE NDOLE MA.JDO.@A640.0CYRILLIC cZEMLYA.9sZEMLYA.9cDZELO.9sDZELO.9cREVERSED DZE.
9sREVERSED DZE.9cIOTA.9sIOTA.9cDJERV.9sDJERV.9cMONOGRAPH UK.9sMONOGRAPH UK.9cBROAD OMEGA.
9sBROAD OMEGA.9cNEUTRAL YER.9sNEUTRAL YER.9cYERUwBACK YER.9sYERUwBACK YER.9cIOTIFIED YAT.
9sIOTIFIED YAT.9cREVERSED YU.9sREVERSED YU.9cIOTIFIED A.9sIOTIFIED A.9cCLOSED LITTLE YUS.
9sCLOSED LITTLE YUS.9cBLENDED YUS.9sBLENDED YUS.9cIOTIFIED CLOSED LITTLE YUS.
9sIOTIFIED CLOSED LITTLE YUS.9cYN.9sYN.9cREVERSED TSE.9sREVERSED TSE.9cSOFT DE.9sSOFT DE.
9cSOFT EL.9sSOFT EL.9cSOFT EM.9sSOFT EM.9cMONOCULAR O.9sMONOCULAR O.9cBINOCULAR O.9sBINOCULAR O.
9cdMONOCULAR O.9sdMONOCULAR O.9lMULTIOCULAR O.1OMBINg CYRILLIC VZMET.JTEN MILLIONSx.
JHUNDRED MILLIONSx.JTHOUSAND MILLIONSx.0SLAVONIC ASTERISK.0COMBINg CYRILLIC lUKRAINIAN IE.QI.
QYI.QU.QHARDx.QYERU.QSOFTx.QOMEGA.JKAVYKA.JPAYEROK.1YRILLIC KAVYKA.9PAYEROK.9cDWE.9sDWE.9cDZWE.
9sDZWE.9cZHWE.9sZHWE.9cCCHE.9sCCHE.9cDZZE.9sDZZE.9cTEwMIDDLE HOOK.9sTEwMIDDLE HOOK.9cTWE.9sTWE.
9cTSWE.9sTSWE.9cTSSE.9sTSSE.9cTCHE.9sTCHE.9cHWE.9sHWE.9cSHWE.9sSHWE.9cdO.9sdO.9cCROSSED O.
9sCROSSED O.0MODIFIER lCYRILLIC HARDx.PSOFTx.0COMBINg CYRILLIC lEF.QIOTIFIED E.0BAMUM lA.DKA.DU.
DKU.DEE.DREE.DTAE.DO.DNYI.DI.DLA.DPA.DRII.FEE.DLEEEE.DMEEEE.DTAA.DNDAA.EJAEM.DM.DSUU.DMU.DSHII.
EI.EHEUX.EEUX.DKYEE.EET.DNUAE.F.EJUAE.DYOQ.DSHU.DYUQ.EA.DNSHA.DKEUX.DPEUX.DNJEE.ETEE.DPUE.DWUE.
DPEE.DFEE.DRU.DLU.DMI.DNI.DREUX.EAE.DKEN.DNGKWAEN.FGA.FA.DSHO.DPUAE.DFU.EOM.DWA.DNA.DLI.DPI.
DLOQ.DKO.DMBEN.DREN.DMEN.EA.DTI.DKI.DMO.EBAA.DTET.DKPA.DTEN.DNTUU.DSAMBA.DFAAMAE.DKOVUU.FGHOM.
6COMBINg MARK KOQNDON.LTUKWENTIS.6NJAEMLI.6FULL STOP.6COLON.8MMA.6SEMICOLON.6QUESy MARK.@A700.
0MODIFIER lCHINESE TONE YIN Pg.UANG Pg.UIN SHANG.UANG SHANG.UIN QU.UANG QU.UIN RU.UANG RU.
GEXTRA-HIGH DOTTED TONE BAR.GHIGH DOTTED TONE BAR.GMID DOTTED TONE BAR.GLOW DOTTED TONE BAR.
GEXTRA-LOW DOTTED TONE BAR.MHIGH DOTTED t-STEM TONE BAR.GHIGH DOTTED t-STEM TONE BAR.
GMID DOTTED t-STEM TONE BAR.GLOW DOTTED t-STEM TONE BAR.GEXTRA-LOW DOTTED t-STEM TONE BAR.
MHIGH t-STEM TONE BAR.GHIGH t-STEM TONE BAR.GMID t-STEM TONE BAR.GLOW t-STEM TONE BAR.
GEXTRA-LOW t-STEM TONE BAR.GDOT qBAR.KSLASH.KHoIZONTAL BAR.GLOWER h CoNER ANGLE.GRAISED UP r.
NDOWN r.NEXCLAMAy MARK.NINVERTED EXCLAMAy MARK.GLOW INVERTED EXCLAMAy MARK.GSTRESSaHIGH TONE.
RLOW TONE.0LATIN cEGYPTOLOGICAL ALEF.6sEGYPTOLOGICAL ALEF.6cEGYPTOLOGICAL AIN.
6sEGYPTOLOGICAL AIN.6cHENG.6sHENG.6cTZ.6sTZ.6cTRESILLO.6sTRESILLO.6cCUATRILLO.6sCUATRILLO.
6cCUATRILLOwCOMMA.6sCUATRILLOwCOMMA.6lmCAPITAL F.RS.6cAA.6sAA.6cAO.6sAO.6cAU.6sAU.6cAV.6sAV.
6cAVwHoIZONTAL BAR.6sAVwHoIZONTAL BAR.6cAY.6sAY.6cREVERSED CwDOT.6sREVERSED CwDOT.6cKwSTROKE.
6sKwSTROKE.6cKwDIAGONAL STROKE.6sKwDIAGONAL STROKE.6cKwSTROKEaDIAGONAL STROKE.
6sKwSTROKEaDIAGONAL STROKE.6cBROKEN L.6sBROKEN L.6cLwHIGH STROKE.6sLwHIGH STROKE.
6cOwLONG STROKE OVERLAY.6sOwLONG STROKE OVERLAY.6cOwLOOP.6sOwLOOP.6cOO.6sOO.
6cPwSTROKE THROUGH DESCENDER.6sPwSTROKE THROUGH DESCENDER.6cPwFLOURISH.6sPwFLOURISH.
6cPwSQUIRREL TAIL.6sPwSQUIRREL TAIL.6cQwSTROKE THROUGH DESCENDER.6sQwSTROKE THROUGH DESCENDER.
6cQwDIAGONAL STROKE.6sQwDIAGONAL STROKE.6cR ROTUNDA.6sR ROTUNDA.6cRUM ROTUNDA.6sRUM ROTUNDA.
6cVwDIAGONAL STROKE.6sVwDIAGONAL STROKE.6cVY.6sVY.6cVISIGOTHIC Z.6sVISIGOTHIC Z.6cTHoNwSTROKE.
6sTHoNwSTROKE.6cTHoNwSTROKE THROUGH DESCENDER.6sTHoNwSTROKE THROUGH DESCENDER.6cVEND.6sVEND.
6cET.6sET.6cIS.6sIS.6cCON.6sCON.0MODIFIER lUS.0LATIN sDUM.JLUM.JMUM.JNUM.JRUM.6lmCAPITAL RUM.
6sTUM.JUM.6cINSULAR D.6sINSULAR D.6cINSULAR F.6sINSULAR F.6cINSULAR G.LTURNED INSULAR G.
6sTURNED INSULAR G.6cTURNED L.6sTURNED L.6cINSULAR R.6sINSULAR R.6cINSULAR S.6sINSULAR S.
6cINSULAR T.6sINSULAR T.0MODIFIER lLOW CIRCUMFLEX ACCENT.GCOLON.GSHoT EQUALSx.0LATIN cSALTILLO.
6sSALTILLO.6cTURNED H.6sLwRETROFLEX HOOKaBELT.6lSINOLOGICAL DOT.6cNwDESCENDER.6sNwDESCENDER.
6cCwBAR.6sCwBAR.QPALATAL HOOK.JHwPALATAL HOOK.6cBwFLOURISH.6sBwFLOURISH.6cFwSTROKE.6sFwSTROKE.
6cVOLAPUK AE.6sVOLAPUK AE.6cVOLAPUK OE.6sVOLAPUK OE.6cVOLAPUK UE.6sVOLAPUK UE.
6cGwOBLIQUE STROKE.6sGwOBLIQUE STROKE.6cKwOBLIQUE STROKE.6sKwOBLIQUE STROKE.6cNwOBLIQUE STROKE.
6sNwOBLIQUE STROKE.6cRwOBLIQUE STROKE.6sRwOBLIQUE STROKE.6cSwOBLIQUE STROKE.6sSwOBLIQUE STROKE.
6cHwHOOK.LREVERSED OPEN E.LSCRIPT G.LLwBELT.LmCAPITAL I.6lmCAPITAL Q.6cTURNED K.ST.
LJwCROSSED-TAIL.LCHI.LBETA.6sBETA.6cOMEGA.6sOMEGA.6cUwSTROKE.6sUwSTROKE.6cGLOTTAL A.6sGLOTTAL A.
6cGLOTTAL I.6sGLOTTAL I.6cGLOTTAL U.6sGLOTTAL U.6cOLD POLISH O.6sOLD POLISH O.6cANGLICANA W.
6sANGLICANA W.6cCwPALATAL HOOK.LSwHOOK.LZwPALATAL HOOK.LDwSHoT STROKE OVERLAY.
6sDwSHoT STROKE OVERLAY.6cSwSHoT STROKE OVERLAY.6sSwSHoT STROKE OVERLAY.@A7D0.
6cCLOSED INSULAR G.6sCLOSED INSULAR G.@A7D3.JdTHoN.@A7D5.QWYNN.6cMIDDLE SCOTS S.
6sMIDDLE SCOTS S.6cSIGMOID S.6sSIGMOID S.@A7F2.0MODIFIER lCAPITAL C.OF.OQ.
0LATIN cREVERSED HALF H.6sREVERSED HALF H.6EPIGRAPHIC lSIDEWAYS I.0MODIFIER lCAPITAL HwSTROKE.
GmLIGATURE OE.0LATIN lmCAPITAL TURNED M.6EPIGRAPHIC lREVERSED F.XP.OINVERTED M.P LONGA.
OARCHAIC M.0SYLOTI NAGRI lA.KI.DSIGN DVISVARA.DlU.KE.KO.DSIGN HASANTA.DlKO.LHO.KGO.LHO.
DSIGN ANUSVARA.DlCO.LHO.KJO.LHO.KTTO.MHO.KDDO.MHO.KTO.LHO.KDO.LHO.KNO.KPO.LHO.KBO.LHO.KMO.KRO.
KLO.KRRO.KSO.KHO.DvA.OI.OU.OE.OOO.DPOETRY MARK-1.P2.P3.P4.DSIGN ALTERNATE HASANTA.@A830.
0NoTH INDIC FRACy ONE QUARTER.PHALF.LTHREE QUARTERS.LONE SIXTEENTH.PEIGHTH.LTHREE SIXTEENTHS.
CQUARTER MARK.CPLACEHOLDER MARK.CRUPEE MARK.CQUANTITY MARK.@A840.0PHAGS-PA lKA.HHA.GGA.GNGA.GCA.
HHA.GJA.GNYA.GTA.HHA.GDA.GNA.GPA.HHA.GBA.GMA.GTSA.IHA.GDZA.GWA.GZHA.HA.GmA.GYA.GRA.GLA.GSHA.HA.
GHA.GA.GI.GU.GE.GO.GQA.GXA.GFA.GGGA.GEE.9SUBJOINED lWA.QYA.9lTTA.IHA.GDDA.GNNA.GALTERNATE YA.
GVOICELESS SHA.LD HA.GASPIRATED FA.9SUBJOINED lRA.BPERFIXED lRA.9lCANDRABINDU.9SgLE HEAD MARK.
9dHEAD MARK.9MARK SHAD.EdSHAD.@A880.0SAURASHTRAx ANUSVARA.GVISARGA.BlA.JA.II.JI.IU.JU.
IVOCALIC R.RR.QL.RL.IE.JE.IAI.IO.JO.IAU.IKA.JHA.IGA.JHA.INGA.ICA.JHA.IJA.JHA.INYA.ITTA.KHA.IDDA.
KHA.INNA.ITA.JHA.IDA.JHA.INA.IPA.JHA.IBA.JHA.IMA.IYA.IRA.ILA.IVA.ISHA.JSA.JA.IHA.ILLA.
BCONSONANTx HAARU.BvAA.MI.NI.MU.NU.MVOCALIC R.VR.UL.VL.ME.NE.MAI.MO.NO.MAU.BSIGN VIRAMA.
GCANDRABINDU.@A8CE.BDANDA.COUBLE DANDA.CIGIT ZERO.HONE.HTWO.IHREE.HFOUR.IIVE.HSIX.IEVEN.HEIGHT.
HNINE.@A8E0.0COMBINg DEVANAGARI DIGIT ZERO.RONE.RTWO.SHREE.RFOUR.SIVE.RSIX.SEVEN.REIGHT.RNINE.
LlA.SU.SKA.SNA.SPA.SRA.SVI.LSIGN AVAGRAHA.0DEVANAGARIx SPACg CANDRABINDU.GCANDRABINDU VIRAMA.
GdCANDRABINDU VIRAMA.GCANDRABINDU TWO.THREE.SAVAGRAHA.GPUSHPIKA.BGAP FILLER.BCARET.BHEADSTROKE.
BSIGN SIDDHAM.BJAIN OM.BlAY.BvAY.0KAYAH LI DIGIT ZERO.FONE.FTWO.GHREE.FFOUR.GIVE.FSIX.GEVEN.
FEIGHT.FNINE.9lKA.HHA.GGA.GNGA.GSA.HHA.GZA.GNYA.GTA.GHTA.GNA.GPA.HHA.GMA.GDA.GBA.GRA.GYA.GLA.
GWA.GTHA.GHA.GVA.GCA.GA.GOE.GI.GOO.9VOWEL UE.FE.FU.FEE.FO.9TONE PLOPHU.ECALYA.J PLOPHU.
9SIGN CWI.ESHYA.0REJANG lKA.EGA.ENGA.ETA.EDA.ENA.EPA.EBA.EMA.ECA.EJA.ENYA.ESA.ERA.ELA.EYA.EWA.
EHA.EMBA.ENGGA.FDA.FYJA.EA.7vI.IU.IE.IAI.IO.IAU.IEU.JA.7CONSONANTx NG.N.MR.MH.7VIRAMA.@A95F.
7SECy MARK.0HANGUL CHOSEONG TIKEUT-MIEUM.NPIEUP.NSIOS.NCIEUC.GRIEUL-KIYEOK.MSSANGKIYEOK.MTIKEUT.
MSSANGTIKEUT.MMIEUM.MPIEUP.MSSANGPIEUP.MKAPYEOUNPIEUP.MSIOS.MCIEUC.MKHIEUKH.GMIEUM-KIYEOK.
MTIKEUT.MSIOS.GPIEUP-SIOS-THIEUTH.MKHIEUKH.MHIEUH.GSSANGSIOS-PIEUP.GIEUNG-RIEUL.MHIEUH.
GSSANGCIEUC-HIEUH.LTHIEUTH.GPHIEUPH-HIEUH.GHIEUH-SIOS.GSSANGYEoINHIEUH.@A980.
0JAVANESEx PANYANGGA.ECECAK.ELAYAR.EWIGNYAN.9lA.GI KAWI.H.HI.GU.GPA CEREK.GNGA LELET.P RASWADI.
GE.GAI.GO.GKA.I SASAK.JMURDA.GGA.I MURDA.GNGA.GCA.I MURDA.GJA.GNYA MURDA.GJA MAHAPRANA.GNYA.
GTTA.J MAHAPRANA.GDDA.J MAHAPRANA.GNA MURDA.GTA.I MURDA.GDA.I MAHAPRANA.GNA.GPA.I MURDA.GBA.
I MURDA.GMA.GYA.GRA.I AGUNG.GLA.GWA.GSA MURDA.KAHAPRANA.I.GHA.9SIGN CECAK TELU.9vTARUNG.LOLONG.
KWULU.O MELIK.KSUKU.O MENDUT.KTALg.KDIRGA MURE.KPEPET.9CONSONANTx KERET.OPENGKAL.OCAKRA.
9PANGKON.9t RERENGGAN.9h RERENGGAN.9PADA ANDAP.EMADYA.ELUHUR.EWINDU.EPANGKAT.ELgSA.FUNGSI.EADEG.
I ADEG.EPISELEH.9TURNED PADA PISELEH.@A9CF.9PANGRANGKEP.9DIGIT ZERO.FONE.FTWO.GHREE.FFOUR.GIVE.
FSIX.GEVEN.FEIGHT.FNINE.@A9DE.9PADA TIRTA TUMETES.EISEN-ISEN.0MYANMAR lSHAN GHA.KCHA.KJHA.KNNA.
KBHA.8SIGN SHAN SAW.8MODIFIER lSHAN REDUPLICAy.8lTAI LAg NYA.PFA.PGA.QHA.PJA.QHA.PDDA.RHA.PNNA.
8TAI LAg DIGIT ZERO.OONE.OTWO.PHREE.OFOUR.PIVE.OSIX.PEVEN.OEIGHT.ONINE.8lTAI LAg LLA.PDA.QHA.
PBA.QHA.@AA00.0CHAM lA.CI.CU.CE.CAI.CO.CKA.DHA.CGA.DHA.CNGUE.EA.CCHA.EHA.CJA.DHA.CNHUE.EA.EJA.
CTA.DHA.CDA.DHA.CNUE.DA.CDDA.CPA.DPA.DHA.CBA.DHA.CMUE.DA.CBBA.CYA.CRA.CLA.CVA.CSSA.DA.CHA.5vAA.
GI.HI.GEI.GU.GOE.H.GAI.HU.GUE.5CONSONANTx YA.KRA.KLA.KWA.@AA40.5lFINAL K.IG.ING.
5CONSONANTx FINAL NG.5lFINAL CH.IT.IN.IP.IY.IR.IL.ISS.5CONSONANTx FINAL M.QH.@AA50.5DIGIT ZERO.
BONE.BTWO.CHREE.BFOUR.CIVE.BSIX.CEVEN.BEIGHT.BNINE.@AA5C.5PUNCTUAy SPIRAL.HDANDA.IOUBLE DANDA.
HTRIPLE DANDA.0MYANMAR lKHAMTI GA.MCA.NHA.MJA.NHA.MNYA.MTTA.OHA.MDDA.OHA.NHA.MNA.MSA.MHA.NHA.
MFA.8MODIFIER lKHAMTI REDUPLICAy.8lKHAMTI XA.MZA.MRA.9OGOGRAM KHAMTI OAY.OQN.OHM.
8SYMBOL AITON EXCLAMAy.LONE.LTWO.8lAITON RA.8SIGN PAO KAREN TONE.DTAI LAg TONE-2.S5.
8lSHWE PALAUNG CHA.SSHA.0TAI VIET lLOW KO.GHIGH KO.GLOW KHO.GHIGH KHO.GLOW KHHO.GHIGH KHHO.
GLOW GO.GHIGH GO.GLOW NGO.GHIGH NGO.GLOW CO.GHIGH CO.GLOW CHO.GHIGH CHO.GLOW SO.GHIGH SO.
GLOW NYO.GHIGH NYO.GLOW DO.GHIGH DO.GLOW TO.GHIGH TO.GLOW THO.GHIGH THO.GLOW NO.GHIGH NO.
GLOW BO.GHIGH BO.GLOW PO.GHIGH PO.GLOW PHO.GHIGH PHO.GLOW FO.GHIGH FO.GLOW MO.GHIGH MO.GLOW YO.
GHIGH YO.GLOW RO.GHIGH RO.GLOW LO.GHIGH LO.GLOW VO.GHIGH VO.GLOW HO.GHIGH HO.GLOW O.GHIGH O.
9MAI KANG.9VOWEL AA.FI.FUE.G.FE.FO.9MAI KHIT.9VOWEL IA.FUEA.GA.FAUE.GY.GN.GM.9TONE MAI EK.
INUENG.ITHO.ISONG.@AADB.9SYMBOL KON.GNUENG.GSAM.GHO HOI.GKOI KOI.0MEETEI MAYEK lE.KO.KCHA.KNYA.
KTTA.MHA.KDDA.MHA.KNNA.KSHA.LSA.DvII.OUU.OAAI.PU.PAU.DCHEIKHAN.DAHANG KHUDAM.ENJI.
DSYLLABLE REPETIy MARK.DWoD REPETIy MARK.DvVISARGA.EIRAMA.@AB01.0ETHIOPIC SYLLABLE TTHU.LI.LAA.
LEE.M.LO.@AB09.IDDHU.LI.LAA.LEE.M.LO.@AB11.JZU.KI.KAA.KEE.L.KO.@AB20.ICCHHA.MU.MI.MAA.MEE.N.MO.
@AB28.IBBA.KU.KI.KAA.KEE.L.KO.@AB30.0LATIN sBARRED ALPHA.JA REVERSED-SCHWA.JBLACKlE.KARRED E.
JEwFLOURISH.JLENIS F.JSCRIPT GwCROSSED-TAIL.JLwINVERTED LAZY S.QdMIDDLE TILDE.QMIDDLE Rg.
JMwCROSSED-TAIL.JNwCROSSED-TAIL.JENGwCROSSED-TAIL.JBLACKlO.WwSTROKE.JOPEN OwSTROKE.JINVERTED OE.
JTURNED OEwSTROKE.YHoIZONTAL STROKE.R OPEN-O.YwSTROKE.JSTIRRUP R.6lmCAPITAL Rwh LEG.
6sR WITHOUT HANDLE.JdR.JRwCROSSED-TAIL.JdRwCROSSED-TAIL.JSCRIPT R.RwRg.JBASELINE ESH.
JUwSHoT h LEG.LBARwSHoT h LEG.KI.JTURNED UI.JUwt HOOK.JCHI.MwLOW h Rg.Wt SERIF.JXwLOW h Rg.
SNG t LEG.Z LEGaLOW h Rg.Z LEGwSERIF.JYwSHoT h LEG.0MODIFIER BREVEwINVERTED BREVE.9lmHENG.
MLwINVERTED LAZY S.TMIDDLE TILDE.MUwt HOOK.0LATIN sSAKHA YAT.JIOTIFIED E.JOPEN OE.JUO.
JINVERTED ALPHA.0GREEK lmCAPITAL OMEGA.0LATIN sDZ DIGRAPHwRETROFLEX HOOK.
JTS DIGRAPHwRETROFLEX HOOK.KURNED RwMIDDLE TILDE.0MODIFIER lmTURNED W.Gt TACK.Gh TACK.@AB70.
0CHEROKEE sA.ME.MI.MO.MU.MV.MGA.MKA.MGE.NI.NO.NU.NV.MHA.NE.NI.NO.NU.NV.MLA.NE.NI.NO.NU.NV.MMA.
NE.NI.NO.NU.MNA.MHNA.MNAH.NE.NI.NO.NU.NV.MQUA.OE.OI.OO.OU.OV.MSA.N.NE.NI.NO.NU.NV.MDA.MTA.MDE.
MTE.MDI.MTI.MDO.NU.NV.NLA.MTLA.OE.OI.OO.OU.OV.NSA.OE.OI.OO.OU.OV.MWA.NE.NI.NO.NU.NV.MYA.
0MEETEI MAYEK lKOK.KSAM.KLAI.KMIT.KPA.KNA.KCHIL.KTIL.KKHOU.KNGOU.KTHOU.KWAI.KYANG.KHUK.KUN.KI.
KPHAM.KATIYA.KGOK.KJHAM.KRAI.KBA.KJIL.KDIL.KGHOU.KDHOU.KBHAM.KKOK LONSUM.KLAI LONSUM.
KMIT LONSUM.KPA LONSUM.KNA LONSUM.KTIL LONSUM.KNGOU LONSUM.KI LONSUM.DvONAP.OINAP.OANAP.OYENAP.
OSOUNAP.OUNAP.OCHEINAP.ONUNG.DCHEIKHEI.DLUM IYEK.DAPUN IYEK.@ABF0.DDIGIT ZERO.JONE.JTWO.KHREE.
JFOUR.KIVE.JSIX.KEVEN.JEIGHT.JNINE.@D7B0.0HANGUL JUNGSEONG O-YEO.JO-I.HYO-A.LE.KEO.HU-YEO.JI-I.
HYU-AE.KO.HEU-A.KEO.L.KO.HI-YA-O.LE.KEO.L.JO-I.JYO.KU.JI.HARAEA-A.NE.@D7CB.
8ONGSEONG NIEUN-RIEUL.NCHIEUCH.HSSANGTIKEUT.S-PIEUP.HTIKEUT-PIEUP.OSIOS.S-KIYEOK.OCIEUC.PHIEUCH.
OTHIEUTH.HRIEUL-SSANGKIYEOK.NKIYEOK-HIEUH.HSSANGRIEUL-KHIEUKH.HRIEUL-MIEUM-HIEUH.NPIEUP-TIKEUT.
TPHIEUPH.NYESIEUNG.PoINHIEUH-HIEUH.HKAPYEOUNRIEUL.HMIEUM-NIEUN.NSSANGNIEUN.HSSANGMIEUM.
HMIEUM-PIEUP-SIOS.NCIEUC.HPIEUP-TIKEUT.NRIEUL-PHIEUPH.NMIEUM.HSSANGPIEUP.HPIEUP-SIOS-TIKEUT.
NCIEUC.OHIEUCH.HSIOS-MIEUM.MKAPYEOUNPIEUP.ISANGSIOS-KIYEOK.RTIKEUT.IIOS-PANSIOS.MCIEUC.NHIEUCH.
MTHIEUTH.MHIEUH.HPANSIOS-PIEUP.PKAPYEOUNPIEUP.HYESIEUNG-MIEUM.QHIEUH.HCIEUC-PIEUP.NSSANGPIEUP.
HSSANGCIEUC.HPHIEUPH-SIOS.PTHIEUTH.@FB00.0LATIN mLIGATURE FF.MI.ML.MFI.NL.LLONG S T.LST.@FB13.
0ARMENIAN mLIGATURE MEN NOW.SECH.SINI.OVEW NOW.OMEN XEH.@FB1D.0HEBREW lYODwHIRIQ.
7POINT JUDEO-SPANISH VARIKA.7LIGATURE YIDDISH YOD YOD PATAH.8ETTER ALTERNATIVE AYIN.EWIDE ALEF.
JDALET.JHE.JKAF.JLAMED.JFINAL MEM.JRESH.JTAV.EALTERNATIVE PLUSx.ESHINwSHIN DOT.PIN DOT.
ODAGESHaSHIN DOT.ZSIN DOT.EALEFwPATAH.OQAMATS.OMAPIQ.EBETwDAGESH.EGIMELwDAGESH.EDALETwDAGESH.
EHEwMAPIQ.EVAVwDAGESH.EZAYINwDAGESH.@FB38.ETETwDAGESH.EYODwDAGESH.EFINAL KAFwDAGESH.EKAFwDAGESH.
ELAMEDwDAGESH.@FB3E.EMEMwDAGESH.@FB40.ENUNwDAGESH.ESAMEKHwDAGESH.@FB43.EFINAL PEwDAGESH.
EPEwDAGESH.@FB46.ETSADIwDAGESH.EQOFwDAGESH.ERESHwDAGESH.ESHINwDAGESH.ETAVwDAGESH.EVAVwHOLAM.
EBETwRAFE.EKAFwRAFE.EPEwRAFE.8IGATURE ALEF LAMED.0ARABIC lALEF WASLAi.Pf.EBEEHi.Jf.Jj.
JMEDIAL FoM.EPEHi.If.Ij.IMEDIAL FoM.EBEHEHi.Kf.Kj.KMEDIAL FoM.ETTEHEHi.Lf.Lj.LMEDIAL FoM.FEHEHi.
Kf.Kj.KMEDIAL FoM.FTEHi.Jf.Jj.JMEDIAL FoM.EVEHi.If.Ij.IMEDIAL FoM.EPEHEHi.Kf.Kj.KMEDIAL FoM.
EDYEHi.Jf.Jj.JMEDIAL FoM.ENYEHi.Jf.Jj.JMEDIAL FoM.ETCHEHi.Kf.Kj.KMEDIAL FoM.JEHi.Mf.Mj.
MMEDIAL FoM.EDDAHALi.Lf.FAHALi.Kf.FULi.If.FDALi.Jf.EJEHi.If.ERREHi.Jf.EKEHEHi.Kf.Kj.KMEDIAL FoM.
EGAFi.If.Ij.IMEDIAL FoM.FUEHi.Jf.Jj.JMEDIAL FoM.ENGOEHi.Kf.Kj.KMEDIAL FoM.FOON GHUNNAi.Qf.
ERNOONi.Kf.Kj.KMEDIAL FoM.EHEHwYEHei.Xf.IGOALi.Nf.Nj.NMEDIAL FoM.IDOACHASHMEEi.Uf.Uj.
UMEDIAL FoM.EYEH BARREEi.Pf.PWITH HAMZAei.Ze f.7SYMBOL DOTe.IBELOW.ETWO DOTSe.NBELOW.
FHREE DOTSe.PBELOW.PzDOWNWARDSe.ZOWNWARDSb.EFOUR DOTSe.OBELOW.EdqBARb.ETWO DOTS VERTICALLYe.
YBELOW.ERg.EmTAHe.OBELOW.EWASLAe.@FBD3.7lNGi.Hf.Hj.HMEDIAL FoM.EUi.Gf.EOEi.Hf.EYUi.Hf.
EUwHAMZAei.EVEi.Hf.EKIRGHIZ OEi.Pf.MYUi.Pf.EEi.Gf.Gj.GMEDIAL FoM.
EUIGHUR KAZAKH KIRGHIZ ALEF MAKSURA j.Z ALEF MAKSURA MEDIAL FoM.8IGATURE YEHwHAMZAewALEFi.
ZEwALEF f.ZEwAEi.ZEwAE f.ZEwWAWi.ZEwWAW f.ZEwUi.ZEwU f.ZEwOEi.ZEwOE f.ZEwYUi.ZEwYU f.ZEwEi.
ZEwE f.ZEwE j.GUIGHUR KIRGHIZ YEHwHAMZAewALEF MAKSURAi.ZWITH HAMZAewALEF MAKSURA f.
ZWITH HAMZAewALEF MAKSURA j.8ETTER FARSI YEHi.Of.Oj.OMEDIAL FoM.8IGATURE YEHwHAMZAewJEEMi.
ZEwHAHi.ZEwMEEMi.ZEwALEF MAKSURAi.ZEwYEHi.GBEHwJEEMi.PHAHi.PKHAHi.PMEEMi.PALEF MAKSURAi.PYEHi.
GTEHwJEEMi.PHAHi.PKHAHi.PMEEMi.PALEF MAKSURAi.PYEHi.HHEHwJEEMi.QMEEMi.QALEF MAKSURAi.QYEHi.
GJEEMwHAHi.QMEEMi.GHAHwJEEMi.PMEEMi.GKHAHwJEEMi.QHAHi.QMEEMi.GSEENwJEEMi.QHAHi.QKHAHi.QMEEMi.
HADwHAHi.PMEEMi.GDADwJEEMi.PHAHi.PKHAHi.PMEEMi.GTAHwHAHi.PMEEMi.GZAHwMEEMi.GAINwJEEMi.PMEEMi.
GGHAINwJEEMi.RMEEMi.GFEHwJEEMi.PHAHi.PKHAHi.PMEEMi.PALEF MAKSURAi.PYEHi.GQAFwHAHi.PMEEMi.
PALEF MAKSURAi.PYEHi.GKAFwALEFi.PJEEMi.PHAHi.PKHAHi.PLAMi.PMEEMi.PALEF MAKSURAi.PYEHi.
GLAMwJEEMi.PHAHi.PKHAHi.PMEEMi.PALEF MAKSURAi.PYEHi.GMEEMwJEEMi.QHAHi.QKHAHi.QMEEMi.
QALEF MAKSURAi.QYEHi.GNOONwJEEMi.QHAHi.QKHAHi.QMEEMi.QALEF MAKSURAi.QYEHi.GHEHwJEEMi.PMEEMi.
PALEF MAKSURAi.PYEHi.GYEHwJEEMi.PHAHi.PKHAHi.PMEEMi.PALEF MAKSURAi.PYEHi.
GTHALwSUPERSCRIPT ALEFi.GREHwSUPERSCRIPT ALEFi.GALEF MAKSURAwSUPERSCRIPT ALEFi.
GSHADDAwDAMMATANi.SKASRATANi.SFATHAi.SDAMMAi.SKASRAi.SSUPERSCRIPT ALEFi.GYEHwHAMZAewREH f.
ZEwZAIN f.ZEwMEEM f.ZEwNOON f.ZEwALEF MAKSURA f.ZEwYEH f.GBEHwREH f.PZAIN f.PMEEM f.PNOON f.
PALEF MAKSURA f.PYEH f.GTEHwREH f.PZAIN f.PMEEM f.PNOON f.PALEF MAKSURA f.PYEH f.HHEHwREH f.
QZAIN f.QMEEM f.QNOON f.QALEF MAKSURA f.QYEH f.GFEHwALEF MAKSURA f.PYEH f.GQAFwALEF MAKSURA f.
PYEH f.GKAFwALEF f.PLAM f.PMEEM f.PALEF MAKSURA f.PYEH f.GLAMwMEEM f.PALEF MAKSURA f.PYEH f.
GMEEMwALEF f.QMEEM f.GNOONwREH f.QZAIN f.QMEEM f.QNOON f.QALEF MAKSURA f.QYEH f.
GALEF MAKSURAwSUPERSCRIPT ALEF f.GYEHwREH f.PZAIN f.PMEEM f.PNOON f.PALEF MAKSURA f.PYEH f.
PHAMZAewJEEM j.ZEwHAH j.ZEwKHAH j.ZEwMEEM j.ZEwHEH j.GBEHwJEEM j.PHAH j.PKHAH j.PMEEM j.PHEH j.
GTEHwJEEM j.PHAH j.PKHAH j.PMEEM j.PHEH j.HHEHwMEEM j.GJEEMwHAH j.QMEEM j.GHAHwJEEM j.PMEEM j.
GKHAHwJEEM j.QMEEM j.GSEENwJEEM j.QHAH j.QKHAH j.QMEEM j.HADwHAH j.PKHAH j.PMEEM j.GDADwJEEM j.
PHAH j.PKHAH j.PMEEM j.GTAHwHAH j.GZAHwMEEM j.GAINwJEEM j.PMEEM j.GGHAINwJEEM j.RMEEM j.
GFEHwJEEM j.PHAH j.PKHAH j.PMEEM j.GQAFwHAH j.PMEEM j.GKAFwJEEM j.PHAH j.PKHAH j.PLAM j.PMEEM j.
GLAMwJEEM j.PHAH j.PKHAH j.PMEEM j.PHEH j.GMEEMwJEEM j.QHAH j.QKHAH j.QMEEM j.GNOONwJEEM j.
QHAH j.QKHAH j.QMEEM j.QHEH j.GHEHwJEEM j.PMEEM j.PSUPERSCRIPT ALEF j.GYEHwJEEM j.PHAH j.
PKHAH j.PMEEM j.PHEH j.QAMZAewMEEM MEDIAL FoM.ZEwHEH MEDIAL FoM.GBEHwMEEM MEDIAL FoM.
PHEH MEDIAL FoM.GTEHwMEEM MEDIAL FoM.PHEH MEDIAL FoM.HHEHwMEEM MEDIAL FoM.QHEH MEDIAL FoM.
GSEENwMEEM MEDIAL FoM.QHEH MEDIAL FoM.HHEENwMEEM MEDIAL FoM.RHEH MEDIAL FoM.GKAFwLAM MEDIAL FoM.
PMEEM MEDIAL FoM.GLAMwMEEM MEDIAL FoM.GNOONwMEEM MEDIAL FoM.QHEH MEDIAL FoM.
GYEHwMEEM MEDIAL FoM.PHEH MEDIAL FoM.GSHADDAwFATHA MEDIAL FoM.SDAMMA MEDIAL FoM.
SKASRA MEDIAL FoM.GTAHwALEF MAKSURAi.PYEHi.GAINwALEF MAKSURAi.PYEHi.GGHAINwALEF MAKSURAi.RYEHi.
GSEENwALEF MAKSURAi.QYEHi.HHEENwALEF MAKSURAi.RYEHi.GHAHwALEF MAKSURAi.PYEHi.
GJEEMwALEF MAKSURAi.QYEHi.GKHAHwALEF MAKSURAi.QYEHi.GSADwALEF MAKSURAi.PYEHi.GDADwALEF MAKSURAi.
PYEHi.GSHEENwJEEMi.RHAHi.RKHAHi.RMEEMi.RREHi.HEENwREHi.HADwREHi.GDADwREHi.GTAHwALEF MAKSURA f.
PYEH f.GAINwALEF MAKSURA f.PYEH f.GGHAINwALEF MAKSURA f.RYEH f.GSEENwALEF MAKSURA f.QYEH f.
HHEENwALEF MAKSURA f.RYEH f.GHAHwALEF MAKSURA f.PYEH f.GJEEMwALEF MAKSURA f.QYEH f.
GKHAHwALEF MAKSURA f.QYEH f.GSADwALEF MAKSURA f.PYEH f.GDADwALEF MAKSURA f.PYEH f.GSHEENwJEEM f.
RHAH f.RKHAH f.RMEEM f.RREH f.HEENwREH f.HADwREH f.GDADwREH f.GSHEENwJEEM j.RHAH j.RKHAH j.
RMEEM j.HEENwHEH j.HHEENwHEH j.GTAHwMEEM j.GSEENwJEEM MEDIAL FoM.QHAH MEDIAL FoM.
QKHAH MEDIAL FoM.HHEENwJEEM MEDIAL FoM.RHAH MEDIAL FoM.RKHAH MEDIAL FoM.GTAHwMEEM MEDIAL FoM.
GZAHwMEEM MEDIAL FoM.GALEFwFATHATAN f.ZISOLATED FoM.0oNATE t PARENTHESIS.7h PARENTHESIS.
0ARABIC LIGATURE RAHIMAHU ALLAAH.IDI ALLAAHU ANH.WAA.WUM.YAA.XNNA.GSALLALLAAHU ALAYHI WA-AALIH.
GALAYHI AS-SALAAM.MM AS-SALAAM.NAA AS-SALAAM.M AS-SALAATU WAS-SALAAM.GQUDDISA SIRRAH.
GSALLALLAHU ALAYHI WAAALIHEE WA-SALLAM.GALAYHAA AS-SALAAM.GTABAARAKA WA-TAAALAA.
GRAHIMAHUM ALLAAH.GTEHwJEEMwMEEM j.PHAHwJEEM f.ZEEM j.YMEEM j.PKHAHwMEEM j.PMEEMwJEEM j.ZHAH j.
ZKHAH j.GJEEMwMEEMwHAH f.Z HAH j.GHAHwMEEMwYEH f.ZALEF MAKSURA f.GSEENwHAHwJEEM j.QJEEMwHAH j.
Z ALEF MAKSURA f.QMEEMwHAH f.Z HAH j.Z JEEM j.Z MEEM f.Z MEEM j.HADwHAHwHAH f.ZAH j.
PMEEMwMEEM f.HHEENwHAHwMEEM f.Z MEEM j.RJEEMwYEH f.RMEEMwKHAH f.ZH KHAH j.ZH MEEM f.ZH MEEM j.
GDADwHAHwALEF MAKSURA f.PKHAHwMEEM f.ZMEEM j.GTAHwMEEMwHAH f.ZHAH j.ZMEEM j.ZYEH f.
GAINwJEEMwMEEM f.PMEEMwMEEM f.ZMEEM j.ZALEF MAKSURA f.GGHAINwMEEMwMEEM f.ZH YEH f.
ZH ALEF MAKSURA f.GFEHwKHAHwMEEM f.ZMEEM j.GQAFwMEEMwHAH f.ZMEEM f.GLAMwHAHwMEEM f.YYEH f.
YALEF MAKSURA f.PJEEMwJEEM j.ZJEEM f.PKHAHwMEEM f.ZMEEM j.PMEEMwHAH f.ZHAH j.GMEEMwHAHwJEEM j.
ZMEEM j.ZYEH f.QJEEMwHAH j.Z MEEM j.QKHAHwJEEM j.Z MEEM j.@FD92.QJEEMwKHAH j.GHEHwMEEMwJEEM j.
ZMEEM j.GNOONwHAHwMEEM j.ZALEF MAKSURA f.QJEEMwMEEM f.Z MEEM j.Z ALEF MAKSURA f.QMEEMwYEH f.
Z ALEF MAKSURA f.GYEHwMEEMwMEEM f.ZMEEM j.GBEHwKHAHwYEH f.GTEHwJEEMwYEH f.ZALEF MAKSURA f.
PKHAHwYEH f.ZALEF MAKSURA f.PMEEMwYEH f.ZALEF MAKSURA f.GJEEMwMEEMwYEH f.QHAHwALEF MAKSURA f.
QMEEMwALEF MAKSURA f.GSEENwKHAHwALEF MAKSURA f.HADwHAHwYEH f.HHEENwHAHwYEH f.GDADwHAHwYEH f.
GLAMwJEEMwYEH f.PMEEMwYEH f.GYEHwHAHwYEH f.PJEEMwYEH f.PMEEMwYEH f.GMEEMwMEEMwYEH f.
GQAFwMEEMwYEH f.GNOONwHAHwYEH f.GQAFwMEEMwHAH j.GLAMwHAHwMEEM j.GAINwMEEMwYEH f.GKAFwMEEMwYEH f.
GNOONwJEEMwHAH j.GMEEMwKHAHwYEH f.GLAMwJEEMwMEEM j.GKAFwMEEMwMEEM f.GLAMwJEEMwMEEM f.
GNOONwJEEMwHAH f.GJEEMwHAHwYEH f.GHAHwJEEMwYEH f.GMEEMwJEEMwYEH f.GFEHwMEEMwYEH f.
GBEHwHAHwYEH f.GKAFwMEEMwMEEM j.GAINwJEEMwMEEM j.GSADwMEEMwMEEM j.HEENwKHAHwYEH f.
GNOONwJEEMwYEH f.@FDCF.GSALAAMUHU ALAYNAA.@FDF0.JLA USED AS KoANIC STOPxi.
GQALA USED AS KoANIC STOPxi.GALLAHi.HKBARi.GMOHAMMADi.GSALAMi.GRASOULi.GALAYHEi.GWASALLAMi.
GSALLAi.LLLAHOU ALAYHE WASALLAM.GJALLAJALALOUHOU.0RIALx.
0ARABIC LIGATURE BISMILLAH AR-RAHMAN AR-RAHEEM.GSUBHAANAHU WA TAAALAA.GAZZA WA JALL.
0VARIAy SELECTo-1.J2.J3.J4.J5.J6.J7.J8.J9.J10.K1.K2.K3.K4.K5.K6.0PRESENTAy FoM Fo qCOMMA.
VIDEOGRAPHIC COMMA.ZGRAPHIC FULL STOP.VCOLON.VSEMICOLON.VEXCLAMAy MARK.VQUESy MARK.
Vt WHITE LENTICULAR BRACKET.Vh WHITE LENTICULAR BRAKCET.VHoIZONTAL ELLIPSIS.@FE20.
0COMBINg LIGATURE t HALF.Jh HALF.AdTILDE t HALF.Nh HALF.AMACRON t HALF.Hh HALF.ACONJOINg MACRON.
ALIGATURE t HALFb.Jh HALFb.ATILDE t HALFb.Gh HALFb.AMACRON t HALFb.Hh HALFb.ACONJOINg MACRONb.
BYRILLIC TITLO t HALF.Ph HALF.0PRESENTAy FoM Fo qTWO DOT LEADER.VEM DASH.WN DASH.VLOW LINE.
VWAVY LOW LINE.Vt PARENTHESIS.Vh PARENTHESIS.Vt CURLY BRACKET.Vh CURLY BRACKET.
Vt ToTOISE SHELL BRACKET.Vh ToTOISE SHELL BRACKET.Vt BLACK LENTICULAR BRACKET.
Vh BLACK LENTICULAR BRACKET.Vt dANGLE BRACKET.Vh dANGLE BRACKET.Vt ANGLE BRACKET.
Vh ANGLE BRACKET.Vt CoNER BRACKET.Vh CoNER BRACKET.Vt WHITE CoNER BRACKET.
Vh WHITE CoNER BRACKET.0SESAME DOT.0WHITE SESAME DOT.0PRESENTAy FoM Fo qt SQUARE BRACKET.
Vh SQUARE BRACKET.0DASHED OVERLINE.0CENTRELINE OVERLINE.0WAVY OVERLINE.0dWAVY OVERLINE.
1ASHED LOW LINE.0CENTRELINE LOW LINE.0WAVY LOW LINE.0mCOMMA.6IDEOGRAPHIC COMMA.6FULL STOP.@FE54.
6SEMICOLON.6COLON.6QUESy MARK.6EXCLAMAy MARK.7M DASH.6t PARENTHESIS.6h PARENTHESIS.
6t CURLY BRACKET.6h CURLY BRACKET.6t ToTOISE SHELL BRACKET.6h ToTOISE SHELL BRACKET.6NUMBERx.
6AMPERSAND.7STERISK.6PLUSx.6HYPHEN-MINUS.6LESS-THANx.6GREATER-THANx.6EQUALSx.@FE68.
6REVERSE SOLIDUS.6DOLLARx.6PERCENTx.6COMMERCIAL AT.@FE70.0ARABIC FATHATANi.7TATWEELwFATHATANe.
7DAMMATANi.7TAIL FRAGMENT.7KASRATANi.@FE76.7FATHAi.DMEDIAL FoM.7DAMMAi.DMEDIAL FoM.7KASRAi.
DMEDIAL FoM.7SHADDAi.EMEDIAL FoM.8UKUNi.DMEDIAL FoM.7lHAMZAi.EALEFwMADDAei.Z f.OHAMZAei.Z f.
EWAWwHAMZAei.Zf.EALEFwHAMZAbi.Z f.EYEHwHAMZAei.Zf.Zj.ZMEDIAL FoM.EALEFi.Jf.EBEHi.If.Ij.
IMEDIAL FoM.ETEH MARBUTAi.Qf.IISOLATED FoM.If.Ij.IMEDIAL FoM.FHEHi.Jf.Jj.JMEDIAL FoM.EJEEMi.Jf.
Jj.JMEDIAL FoM.EHAHi.If.Ij.IMEDIAL FoM.EKHAHi.Jf.Jj.JMEDIAL FoM.EDALi.If.ETHALi.Jf.EREHi.If.
EZAINi.Jf.ESEENi.Jf.Jj.JMEDIAL FoM.FHEENi.Kf.Kj.KMEDIAL FoM.FADi.If.Ij.IMEDIAL FoM.EDADi.If.Ij.
IMEDIAL FoM.ETAHi.If.Ij.IMEDIAL FoM.EZAHi.If.Ij.IMEDIAL FoM.EAINi.If.Ij.IMEDIAL FoM.EGHAINi.Kf.
Kj.KMEDIAL FoM.EFEHi.If.Ij.IMEDIAL FoM.EQAFi.If.Ij.IMEDIAL FoM.EKAFi.If.Ij.IMEDIAL FoM.ELAMi.If.
Ij.IMEDIAL FoM.EMEEMi.Jf.Jj.JMEDIAL FoM.ENOONi.Jf.Jj.JMEDIAL FoM.EHEHi.If.Ij.IMEDIAL FoM.EWAWi.
If.EALEF MAKSURAi.Rf.EYEHi.If.Ij.IMEDIAL FoM.8IGATURE LAMwALEFwMADDAei.ZMADDAe f.ZHAMZAei.
ZHAMZAe f.ZHAMZAbi.ZHAMZAb f.UISOLATED FoM.Uf.@FEFF.0ZERO WIDTH NO-BREAK SPACE.@FF01.
0FULLWIDTH EXCLAMAy MARK.AQUOTAy MARK.ANUMBERx.ADOLLARx.APERCENTx.AAMPERSAND.BPOSTROPHE.
At PARENTHESIS.Ah PARENTHESIS.AASTERISK.APLUSx.ACOMMA.AHYPHEN-MINUS.AFULL STOP.ASOLIDUS.
ADIGIT ZERO.GONE.GTWO.HHREE.GFOUR.HIVE.GSIX.HEVEN.GEIGHT.GNINE.ACOLON.ASEMICOLON.ALESS-THANx.
AEQUALSx.AGREATER-THANx.AQUESy MARK.ACOMMERCIAL AT.ALATIN cA.VB.VC.VD.VE.VF.VG.VH.VI.VJ.VK.VL.
VM.VN.VO.VP.VQ.VR.VS.VT.VU.VV.VW.VX.VY.VZ.BEFT SQUARE BRACKET.AREVERSE SOLIDUS.
BIGHT SQUARE BRACKET.ACIRCUMFLEX ACCENT.ALOW LINE.AGRAVE ACCENT.ALATIN sA.TB.TC.TD.TE.TF.TG.TH.
TI.TJ.TK.TL.TM.TN.TO.TP.TQ.TR.TS.TT.TU.TV.TW.TX.TY.TZ.BEFT CURLY BRACKET.AqLINE.
Ah CURLY BRACKET.ATILDE.At WHITE PARENTHESIS.Ah WHITE PARENTHESIS.
0HALFWIDTH IDEOGRAPHIC FULL STOP.At CoNER BRACKET.Ah CoNER BRACKET.AIDEOGRAPHIC COMMA.
AKATAKANA MIDDLE DOT.JlWO.QmA.WI.WU.WE.WO.WYA.XU.XO.WTU.I-HIRAGANA PROLONGED SOUND MARK.I lA.QI.
QU.QE.QO.QKA.RI.RU.RE.RO.QSA.RI.RU.RE.RO.QTA.RI.RU.RE.RO.QNA.RI.RU.RE.RO.QHA.RI.RU.RE.RO.QMA.RI.
RU.RE.RO.QYA.RU.RO.QRA.RI.RU.RE.RO.QWA.QN.JVOICED SOUND MARK.JSEMI-VOICED SOUND MARK.
AHANGUL FILLER.HlKIYEOK.OSSANGKIYEOK.OKIYEOK-SIOS.ONIEUN.T-CIEUC.UHIEUH.OTIKEUT.OSSANGTIKEUT.
ORIEUL.T-KIYEOK.UMIEUM.UPIEUP.USIOS.UTHIEUTH.UPHIEUPH.UHIEUH.OMIEUM.OPIEUP.OSSANGPIEUP.
OPIEUP-SIOS.OSIOS.PSANGSIOS.OIEUNG.OCIEUC.OSSANGCIEUC.OCHIEUCH.OKHIEUKH.OTHIEUTH.OPHIEUPH.
OHIEUH.@FFC2.OA.PE.OYA.QE.OEO.P.@FFCA.OYEO.Q.OO.OWA.QE.OOE.@FFD2.OYO.OU.OWEO.Q.PI.OYU.@FFDA.OEU.
OYI.OI.@FFE0.0FULLWIDTH CENTx.APOUNDx.ANOTx.AMACRON.ABROKEN BAR.AYENx.AWONx.@FFE8.
0HALFWIDTH FoMS LIGHT VERTICAL.Atur.AUPur.Ahur.ADOWNur.ABLACK SQUARE.AWHITE n.@FFF9.
0INTERLINEAR ANNOTAy ANCHo.NSEPARATo.NTERMINATo.0OBJECT REPLACEMENT CHARACTER.
0REPLACEMENT CHARACTER"

end Draftsman.Text.CharacterName
