/-
# Draftsman.Text.CharacterName.Pictures -- notations and pictures, from U+1B000 on

The table is written in the notation of `Draftsman.Text.CharacterName` (version 14 of
the character standard).
-/

namespace Draftsman.Text.CharacterName

set_option autoImplicit false

/-- The names of the characters from U+1B000 on: musical and mathematical notations,
signs, game pieces, pictures and variation selectors. -/
def pictures : String :=
  "@1B000.0KATAKANA lARCHAIC E.0HIRAGANA lARCHAIC YE.1ENTAIGANA lA-1.K2.K3.KWO.II-1.K2.K3.K4.IU-1.
K2.K3.K4.K5.IE-2.K3.K4.K5.K6.IO-1.K2.K3.IKA-1.L2.L3.L4.L5.L6.L7.L8.L9.L10.M1.LKE.JI-1.L2.L3.L4.
L5.L6.L7.L8.JU-1.L2.L3.L4.L5.L6.L7.JE-1.L2.L3.L4.L5.L6.JO-1.L2.L3.LKI.ISA-1.L2.L3.L4.L5.L6.L7.
L8.JI-1.L2.L3.L4.L5.L6.JU-1.L2.L3.L4.L5.L6.L7.L8.JE-1.L2.L3.L4.L5.JO-1.L2.L3.L4.L5.L6.L7.ITA-1.
L2.L3.L4.JI-1.L2.L3.L4.L5.L6.L7.JU-1.L2.L3.L4.LTO.JE-1.L2.L3.L4.L5.L6.L7.L8.L9.JO-1.L2.L3.L4.L5.
L6.LRA.INA-1.L2.L3.L4.L5.L6.L7.L8.L9.JI-1.L2.L3.L4.L5.L6.L7.LTE.JU-1.L2.L3.JE-1.L2.L3.L4.L5.L6.
LKO.JO-1.L2.L3.L4.L5.IHA-1.L2.L3.L4.L5.L6.L7.L8.L9.L10.M1.JI-1.L2.L3.L4.L5.L6.L7.JU-1.L2.L3.
JE-1.L2.L3.L4.L5.L6.L7.JO-1.L2.L3.L4.L5.L6.L7.L8.IMA-1.L2.L3.L4.L5.L6.L7.JI-1.L2.L3.L4.L5.L6.L7.
JU-1.L2.L3.L4.JE-1.L2.LMA.JO-1.L2.L3.L4.L5.L6.IYA-1.L2.L3.L4.L5.LYO.JU-1.L2.L3.L4.JO-1.L2.L3.L4.
L5.L6.IRA-1.L2.L3.L4.JI-1.L2.L3.L4.L5.L6.L7.JU-1.L2.L3.L4.L5.L6.JE-1.L2.L3.L4.JO-1.L2.L3.L4.L5.
L6.IWA-1.L2.L3.L4.L5.JI-1.L2.L3.L4.L5.JE-1.L2.L3.L4.JO-1.L2.L3.L4.L5.L6.L7.IN-MU-MO-1.Q2.
1IRAGANA lARCHAIC WU.0KATAKANA lARCHAIC YI.PE.OWU.@1B150.0HIRAGANA lmWI.NE.NO.@1B164.
0KATAKANA lmWI.NE.NO.MN.@1BC00.0DUPLOYAN lH.GX.GP.GT.GF.GK.GL.GB.GD.GV.GG.GR.GP N.GD S.GF N.
GK M.GR S.GTH.GSLOAN DH.GDH.GKK.GSLOAN J.GHL.GLH.GRH.GM.GN.GJ.GS.GM N.GN M.GJ M.GS J.GMwDOT.
GNwDOT.GJwDOT.QS INSIDE ANDe.GSwDOT.Qb.GM S.GN S.GJ S.GS S.GM N S.GN M S.GJ M S.GS J S.GJ SwDOT.
IN.J S.GS T.J R.IP.J R.GT S.IR S.GW.HH.H R.GS N.IM.GK R S.GG R S.GS K.J R.GA.GSLOAN OW.GOA.H.
GAOU.GI.GE.GIE.GSHoT I.GUI.GEE.GSLOAN EH.GROMANIAN I.GSLOAN EE.GLONG I.GYE.GU.GEU.GXW.GU N.
GLONG U.GROMANIAN U.GUH.GSLOAN U.GOOH.HW.HU.GWA.HO.HI.HEI.HOW.GNASAL U.MO.MI.MA.GPERNIN AN.OM.
GSLOAN EN.MAN.MON.GVOCALIC M.@1BC70.9AFFIX t HoIZONTAL SECANT.FMID HoIZONTAL SECANT.
Fh HoIZONTAL SECANT.FLOW qSECANT.FMID qSECANT.FHIGH qSECANT.FATTACHED SECANT.Ot-TO-h SECANT.
OTANGENT.QIL.OE HOOK.OI HOOK.OTANGENT HOOK.@1BC80.FHIGH ACUTE.KTIGHT ACUTE.KGRAVE.KLONG GRAVE.
KDOT.Kn.KLINE.KWAVE.KVERTICAL.@1BC90.FLOW ACUTE.JTIGHT ACUTE.JGRAVE.JLONG GRAVE.JDOT.Jn.JLINE.
JWAVE.JVERTICAL.Jr.@1BC9C.9SIGN OwCROSS.9THICK lSELECTo.9dMARK.9PUNCTUAy CHINOOK FULL STOP.
0SHoTHAND FoMAT lOVERLAP.HCONTINUg OVERLAP.HDOWN STEP.HUP STEP.@1CF00.
0ZNAMENNY COMBINg MARK GoAZDO NIZKO S KRYZHEM ON t.ONIZKO S KRYZHEM ON t.OTSATA ON t.
OGoAZDO NIZKO ON t.ONIZKO ON t.OSREDNE ON t.OMALO POVYSHE ON t.OPOVYSHE ON t.OVYSOKO ON t.
OMALO POVYSHE S KHOKHLOM ON t.OPOVYSHE S KHOKHLOM ON t.OVYSOKO S KHOKHLOM ON t.
OGoAZDO NIZKO S KRYZHEM ON h.ONIZKO S KRYZHEM ON h.OTSATA ON h.OGoAZDO NIZKO ON h.ONIZKO ON h.
OSREDNE ON h.OMALO POVYSHE ON h.OPOVYSHE ON h.OVYSOKO ON h.OMALO POVYSHE S KHOKHLOM ON h.
OPOVYSHE S KHOKHLOM ON h.OVYSOKO S KHOKHLOM ON h.OTSATA S KRYZHEM.OMALO POVYSHE S KRYZHEM.
OSTRANNO MALO POVYSHE.OPOVYSHE S KRYZHEM.XTRANNO.OVYSOKO S KRYZHEM.OMALO POVYSHE STRANNO.
OGoAZDO VYSOKO.OZELO.OON.ORAVNO.OTIKHAYA.OBoZAYA.OUDARKA.OPODVERTKA.OLOMKA.OKUPNAYA.PACHKA.
OZEVOK.OSKOBA.ORAZSEKA.OKRYZH ON t.@1CF30.JTONAL RANGE MARK MRACHNO.Z SVETLO.Z TRESVETLO.
JMARK ZADERZHKA.ODEMESTVENNY ZADERZHKA.OOTSECHKA.OPODCHASHIE.YwqSTROKE.OCHASHKA.V POLNAYA.
OOBLACHKO.OSoOCHYA NOZHKA.OTOCHKA.ODVOETOCHIE.JATTACHg qOMET.JMARK CURVED OMET.OKRYZH.
JLOWER TONAL RANGE INDICATo.9PRIZNAK MODIFIER LEVEL-2.W3.QDIRECy FLIP.QKRYZH.QROG.@1CF50.
9NEUME KRYUK.K TIKHY.FPARAKLIT.FDVA V CHELNU.FKLYUCH.FZANOZHEK.FSTOPITSA.N S OCHKOM.FPEREVODKA.
O NEPOSTOYANNAYA.FSTOPITSAwSoOCHYA NOZHKA.FCHELYUSTKA.FPALKA.FZAPYATAYA.FGOLUBCHIK BoZY.PTIKHY.
PMRACHNY.PSVETLY.PTRESVETLY.FVRAKHIYA PROSTAYA.OMRACHNAYA.OSVETLAYA.OTRESVETLAYA.
OKLYUCHEVAYA PROSTAYA.Z MRACHNAYA.Z SVETLAYA.Z TRESVETLAYA.FdZAPYATAYA.FREVERSED CHELYUSTKA.
FDERBITSA.FKHAMILO.FCHASHKA.FPODCHASHIE.FSKAMEYTSA MRACHNAYA.PSVETLAYA.PTRESVETLAYA.QIKHAYA.
FDEMESTVENNY KLYUCH.FSKAMEYTSA KLYUCHEVAYA SVETLAYA.WNEPOSTOYANNAYA.WVAYA TIKHAYA.
PDVOECHELNAYA PROSTAYA.ZYA SVETLAYA.ZYA NEPOSTOYANNAYA.ZYA KLYUCHEVAYA.GLOZHITIE.O S ZAPYATOY.
PZAKRYTOE.PS KRYZHEM.FKRYZH.FROG.FFITA.FKOBYLA.FZMEYTSA.FSTATYA.L S ZAPYATOY.OKRYZHEM.
OZAPYATOY I KRYZHEM.OKRYZHEM I ZAPYATOY.MZAKRYTAYA.V S ZAPYATOY.MS ROGOM.ODVUMYA ZAPYATYMI.
OZAPYATOY I PODCHASHIEM.FPOLKULIZMY.FSTATYA NEPOSTOYANNAYA.HRELA PROSTAYA.MMRACHNOTIKHAYA.
MKRYZHEVAYA.MPOLUPOVODNAYA.OVODNAYA.MNEPOSTOYANNAYA.MKLYUCHEPOVODNAYA.TNEPOSTOYANNAYA.
MTIKHAYA PUTNAYA.MDVOECHELNAYA.VOKRYZHEVAYA.WPOVODNAYA.VAYA KLYUCHEVAYA.VOPOVODNAYA KLYUCHEVAYA.
MGROMNAYAwSgLE ZAPYATAYA.QOPOVODNAYAwSgLE ZAPYATAYA.QNAYA.QOPOVODNAYA.ZAwdZAPYATAYA.RKRYZHEVAYA.
ZYA POVODNAYA.FMECHIK.L POVODNY.MKLYUCHEVOY.TPOVODNY.TNEPOSTOYANNY.FSTRELA TRYASOGLASNAYA.
SPOVODNAYA.SSTRELNAYA.FOSOKA.K SVETLAYA.LTRESVETLAYA.LKRYUKOVAYA SVETLAYA.MLYUCHEVAYA SVETLAYA.
XNEPOSTOYANNAYA.FSTRELA KRYUKOVAYA.W POVODNAYA.XGROMNAYAwSgLE ZAPYATAYA.
ZOMOPOVODNAYAwSgLE ZAPYATAYA.ZOMNAYA.ZOMOPOVODNAYA.ZOMOPOVODNAYAwdZAPYATAYA.ZOMOKRYZHEVAYA.
ZOMOKRYZHEVAYA POVODNAYA.XTRYASKA.FKUFISMA.FOBLAKO.FDUDA.FNEMKA.FPAUK.@1D000.
0BYZANTINE MUSICALp PSILI.PDASEIA.PPERISPOMENI.POXEIA EKFONITIKON.VDIPLI.PVAREIA EKFONITIKON.
WDIPLI.PKATHISTI.PSYRMATIKI.PPARAKLITIKI.PYPOKRISIS.Y DIPLI.PKREMASTI.PAPESO EKFONITIKON.
PEXO EKFONITIKON.PTELEIA.PKENTIMATA.PAPOSTROFOS.Z DIPLI.PSYNEVMA.PTHITA.POLIGON ARCHAION.
PGoGON ARCHAION.PPSILON.PCHAMILON.PVATHY.PISON ARCHAION.PKENTIMA ARCHAION.WTA ARCHAION.
PSAXIMATA.PPARICHON.PSTAVROS APODEXIA.POXEIAI ARCHAION.PVAREIAI ARCHAION.PAPODERMA ARCHAION.
STHEMA.PKLASMA.PREVMA.PPIASMA ARCHAION.PTINAGMA.PANATRICHISMA.PSEISMA.QYNAGMA ARCHAION.
XMETA STAVROU.POYRANISMA ARCHAION.PTHEMA.PLEMOI.PDYO.PTRIA.QESSERA.PKRATIMATA.PAPESO EXO NEO.
PFTHoA ARCHAION.PIMIFTHoA.PTROMIKON ARCHAION.PKATAVA TROMIKON.PPELASTON.QSIFISTON.PKONTEVMA.
PCHoEVMA ARCHAION.PRAPISMA.PPARAKALESMA ARCHAION.ULITIKI ARCHAION.PICHADIN.PNANA.PPETASMA.
PKONTEVMA ALLO.PTROMIKON ALLO.PSTRAGGISMATA.PGRONTHISMATA.PISON NEO.POLIGON NEO.QXEIA NEO.
PPETASTI.PKOUFISMA.PPETASTOKOUFISMA.PKRATIMOKOUFISMA.PPELASTON NEO.PKENTIMATA NEO ANO.W NEO ANO.
PYPSILI.PAPOSTROFOS NEO.YI SYNDESMOS NEO.PYPoROI.PKRATIMOYPoROON.PELAFRON.PCHAMILI.PMIKRON ISON.
PVAREIA NEO.PPIASMA NEO.QSIFISTON NEO.POMALON.PANTIKENOMA.PLYGISMA.PPARAKLITIKI NEO.UALESMA NEO.
PETERON PARAKALESMA.PKYLISMA.PANTIKENOKYLISMA.PTROMIKON NEO.PEKSTREPTON.PSYNAGMA NEO.RRMA.
PCHoEVMA NEO.PEPEGERMA.PSEISMA NEO.PXIRON KLASMA.PTROMIKOPSIFISTON.PPSIFISTOLYGISMA.
PTROMIKOLYGISMA.WPARAKALESMA.PPSIFISTOPARAKALESMA.PTROMIKOSYNAGMA.PPSIFISTOSYNAGMA.
PGoGOSYNTHETON.PARGOSYNTHETON.PETERON ARGOSYNTHETON.POYRANISMA NEO.PTHEMATISMOS ESO.ZS EXO.
U APLOUN.SS KAI APOTHES.PKATAVASMA.PENDOFONON.PYFEN KATO.UANO.PSTAVROS.PKLASMA ANO.
PDIPLI ARCHAION.PKRATIMA ARCHAION.YLLO.XNEO.PAPODERMA NEO.RLI.PDIPLI.PTRIPLI.QETRAPLI.PKoONIS.
PLEIMMA ENOS CHRONOU.WDYO CHRONON.WTRION CHRONON.XESSARON CHRONON.WIMISEOS CHRONOU.
PGoGON NEO ANO.WPARESTIGMENON ARISTERA.ZESTIGMENON DEXIA.PDIGoGON.X PARESTIGMENON ARISTERA KATO.
ZARESTIGMENON ARISTERA ANO.ZARESTIGMENON DEXIA.PTRIGoGON.PARGON.PIMIDIARGON.PDIARGON.
PAGOGI POLI ARGI.VARGOTERI.YI.VMETRIA.XSI.VGoGI.ZOTERI.VPOLI GoGI.PMARTYRIA PROTOS ICHOS.
YALLI PROTOS ICHOS.YDEYTEROS ICHOS.YALLI DEYTEROS ICHOS.YTRITOS ICHOS.ZRIFONIAS.ZETARTOS ICHOS.
ZETARTOS LEGETOS ICHOS.YLEGETOS ICHOS.YPLAGIOS ICHOS.PISAKIA TELOUS ICHIMATOS.
PAPOSTROFOI TELOUS ICHIMATOS.PFANEROSIS TETRAFONIAS.ZMONOFONIAS.ZDIFONIAS.PMARTYRIA VARYS ICHOS.
YPROTOVARYS ICHOS.ZLAGIOS TETARTOS ICHOS.PGoTHMIKON N APLOUN.Z N DIPLOUN.PENARXIS KAI FTHoA VOU.
PIMIFONON.TTHoON.PFTHoA ARCHAION DEYTEROU ICHOU.WDIATONIKI PA.ZTONIKI NANA.WNAOS ICHOS.
WDIATONIKI DI.WSKLIRON DIATONON DI.WDIATONIKI KE.ZTONIKI ZO.ZTONIKI NI KATO.ZTONIKI NI ANO.
WMALAKON CHROMA DIFONIAS.ZAKON CHROMA MONOFONIAS.QHToA SKLIRON CHROMA VASIS.
QTHoA SKLIRON CHROMA SYNAFI.WNENANO.PCHROA ZYGOS.VKLITON.VSPATHI.PFTHoA I YFESIS TETARTIMoION.
WENARMONIOS ANTIFONIA.PYFESIS TRITIMoION.PDIESIS TRITIMoION.XETARTIMoION.WAPLI DYO DODEKATA.
WMONOGRAMMOS TESSERA DODEKATA.WDIGRAMMOS EX DODEKATA.WTRIGRAMMOS OKTO DODEKATA.
PYFESIS APLI DYO DODEKATA.WMONOGRAMMOS TESSERA DODEKATA.WDIGRAMMOS EX DODEKATA.
WTRIGRAMMOS OKTO DODEKATA.PGENIKI DIESIS.WYFESIS.PDIASTOLI APLI MIKRI.ZPLI MEGALI.YDIPLI.
YTHESEOS.PSIMANSIS THESEOS.ZHESEOS DISIMOU.ZHESEOS TRISIMOU.ZHESEOS TETRASIMOU.YARSEOS.
ZRSEOS DISIMOU.ZRSEOS TRISIMOU.ZRSEOS TETRASIMOU.PDIGRAMMA GG.RFTOGGOS OU.PSTIGMA.PARKTIKO PA.
XVOU.XGA.XDI.XKE.XZO.XNI.PKENTIMATA NEO MESO.W NEO MESO.WTA NEO KATO.W NEO KATO.QLASMA KATO.
PGoGON NEO KATO.@1D100.0MUSICALp SgLE BARLINE.FdBARLINE.FFINAL BARLINE.FREVERSE FINAL BARLINE.
FDASHED BARLINE.FSHoT BARLINE.Ft REPEATx.Fh REPEATx.GEPEAT DOTS.FDAL SEGNO.H CAPO.FSEGNO.FCODA.
FREPEATED FIGURE-1.V2.V3.FFERMATA.Mb.FBREATH MARK.FCAESURA.FBRACE.JKET.FONE-LINE STAFF.
FTWO-LINE STAFF.GHREE-LINE STAFF.FFOUR-LINE STAFF.GIVE-LINE STAFF.FSIX-LINE STAFF.
JSTRg FRETBOARD.FFOUR-STRg FRETBOARD.FG CLEF.L OTTAVA ALTA.TBASSA.FC CLEF.FF CLEF.L OTTAVA ALTA.
TBASSA.FDRUM CLEF-1.P2.@1D129.FMULTIPLE MEASURE REST.FdSHARP.MFLAT.FFLAT UP.KDOWN.FNATURAL UP.
NDOWN.FSHARP UP.LDOWN.FQUARTER TONE SHARP.SFLAT.FCOMMON TIME.GUT TIME.FOTTAVA ALTA.MBASSA.
FQUINDICESIMA ALTA.SBASSA.FMULTI REST.FWHOLE REST.FHALF REST.FQUARTER REST.FEIGHTH REST.
FSIXTEENTH REST.FTHIRTY-SECOND REST.FSIXTY-FOURTH REST.FONE HUNDRED TWENTY-EIGHTH REST.
FX NOTEHEAD.FPLUS NOTEHEAD.Fn X NOTEHEAD.FSQUARE NOTEHEAD WHITE.VBLACK.Fk NOTEHEAD UP WHITE.
Z BLACK.Xt WHITE.ZFT BLACK.Xh WHITE.ZGHT BLACK.XDOWN WHITE.ZWN BLACK.XUP h WHITE.Z h BLACK.
FMOON NOTEHEAD WHITE.TBLACK.Fk-ROUND NOTEHEAD DOWN WHITE.ZEAD DOWN BLACK.FPARENTHESIS NOTEHEAD.
FVOID NOTEHEAD.FNOTEHEAD BLACK.GULL NOTEHEAD.FCLUSTER NOTEHEAD WHITE.WBLACK.FBREVE.FWHOLE NOTE.
FHALF NOTE.FQUARTER NOTE.FEIGHTH NOTE.FSIXTEENTH NOTE.FTHIRTY-SECOND NOTE.FSIXTY-FOURTH NOTE.
FONE HUNDRED TWENTY-EIGHTH NOTE.FCOMBINg STEM.QPRECHGESANG STEM.PTREMOLO-1.X2.X3.
FFgERED TREMOLO-1.W2.W3.FCOMBINg AUGMENTAy DOT.PFLAG-1.U2.U3.U4.U5.FBEGIN BEAM.FEND BEAM.
FBEGIN TIE.FEND TIE.FBEGIN SLUR.FEND SLUR.FBEGIN PHRASE.FEND PHRASE.FCOMBINg ACCENT.PSTACCATO.
PTENUTO.PSTACCATISSIMO.PMARCATO.W-STACCATO.PACCENT-STACCATO.PLOURE.FARPEGGIATO UP.QDOWN.
FCOMBINg DOIT.PRIP.PFLIP.PSMEAR.PBEND.PdTONGUE.PTRIPLE TONGUE.FRINFoZANDO.FSUBITO.FZ.FPIANO.
FMEZZO.FFoTE.FCRESCENDO.FDECRESCENDO.FGRACE NOTE SLASH.QNO SLASH.FTR.GURN.FINVERTED TURN.
FTURN SLASH.KUP.FoNAMENT STROKE-1.V2.V3.V4.V5.V6.V7.V8.V9.V10.W1.FHAUPTSTIMME.FNEBENSTIMME.
FEND OF STIMME.FDEGREE SLASH.FCOMBINg DOWN BOW.PUP BOW.PHARMONIC.PSNAP PIZZICATO.FPEDAL MARK.
LUP MARK.FHALF PEDAL MARK.FGLISSANDO UP.PDOWN.FWITH FgERNAILS.FDAMP.J ALL.FMAXIMA.FLONGA.
FBREVIS.FSEMIBREVIS WHITE.QBLACK.FMINIMA.L BLACK.FSEMIMINIMA WHITE.QBLACK.FFUSA WHITE.KBLACK.
FLONGA PERFECTA REST.LIMPERFECTA REST.FBREVIS REST.FSEMIBREVIS REST.FMINIMA REST.
FSEMIMINIMA REST.FTEMPUS PERFECTUM CUM PROLAyE PERFECTA.Z PROLAyE IMPERFECTA.
Z PROLAyE PERFECTA DIMINUy-1.MIMPERFECTUM CUM PROLAyE PERFECTA.ZUM PROLAyE IMPERFECTA.
ZUM PROLAyE IMPERFECTA DIMINUy-1.ZUM PROLAyE IMPERFECTA DIMINUy-2.
ZUM PROLAyE IMPERFECTA DIMINUy-3.FCROIX.FGREGoIAN C CLEF.PF CLEF.FSQUARE B.FVIRGA.FPODATUS.
FCLIVIS.FSCANDICUS.FCLIMACUS.FToCULUS.FPoRECTUS.O FLEXUS.FSCANDICUS FLEXUS.FToCULUS RESUPINUS.
FPES SUBPUNCTIS.FKIEVAN C CLEF.MEND OF PIECE.MFINAL NOTE.MRECITATIVE MARK.MWHOLE NOTE.
MHALF NOTE.MQUARTER NOTE STEM DOWN.ZSTEM UP.MEIGHTH NOTE STEM DOWN.ZTEM UP.MFLATx.FSoI.FKoON.
@1D200.0GREEK VOCAL NOTAyp-1.S2.S3.S4.S5.S6.S7.S8.S9.S10.T1.T2.T3.T4.T5.T6.T7.T8.T9.S20.T1.T2.
T3.T4.S50.T1.T2.T3.T4.6INSTRUMENTAL NOTAyp-1.Z2.Z4.Z5.Z7.Z8.Z11.Z12.Z13.Z14.Z17.Z18.Z19.Z23.Z24.
Z25.Z26.Z27.Z29.Z30.Z32.Z36.Z37.Z38.Z39.Z40.Z42.Z43.Z45.Z47.Z48.Z49.Z50.Z51.Z52.Z53.Z54.
0COMBINg GREEK MUSICAL TRISEME.PETRASEME.OPENTASEME.0GREEK MUSICAL LEIMMA.@1D2E0.
0MAYAN NUMERAL ZERO.EONE.ETWO.FHREE.EFOUR.FIVE.ESIX.FEVEN.EEIGHT.ENINE.ETEN.EELEVEN.ETWELVE.
FHIRTEEN.EFOURTEEN.FIFTEEN.ESIXTEEN.FEVENTEEN.EEIGHTEEN.ENINETEEN.@1D300.1ONOGRAM Fo EARTH.
0DIGRAM Fo HEAVENLY EARTH.CUMAN EARTH.BEARTHLY HEAVEN.KUMAN.G.0TETRAGRAM Fo CENTRE.EFULL n.
EMIRED.EBARRIER.EKEEPg SMALL.ECONTRARIETY.EASCENT.EOPPOSIy.EBRANCHg OUT.EDEFECTIVENESS o DISToy.
FIVERGENCE.EYOUTHFULNESS.EINCREASE.EPENETRAy.EREACH.ECONTACT.EHOLDg BACK.EWAITg.EFOLLOWg.
EADVANCE.ERELEASE.GSISTANCE.EEASE.EJOY.ECONTENy.EENDEAVOUR.EDUTIES.ECHANGE.EDECISIVENESS.
EBOLD RESOLUy.EPACKg.ELEGION.ECLOSENESS.EKINSHIP.EGATHERg.ESTRENGTH.EPURITY.EFULLNESS.
ERESIDENCE.ELAW o MODEL.ERESPONSE.EGOg TO MEET.EENCOUNTERS.ESTOVE.EGREATNESS.EENLARGEMENT.
EPATTERN.ERITUAL.EFLIGHT.EVASTNESS o WASTg.ECONSTANCY.EMEASURE.EETERNITY.EUNITY.EDIMINISHMENT.
ECLOSED MOUTH.EGUARDEDNESS.FATHERg IN.EMASSg.EACCUMULAy.EEMBELLISHMENT.EDOUBT.EWATCH.ESINKg.
EINNER.EDEPARTURE.FARKENg.FIMMg.EEXHAUSy.ESEVERANCE.FTOPPAGE.EHARDNESS.ECOMPLEy.FLOSURE.
EFAILURE.EAGGRAVAy.ECOMPLIANCE.EON THE VERGE.EDIFFICULTIES.ELABOURg.EFOSTERg.@1D360.
0COUNTg ROD UNIT DIGIT ONE.OTWO.PHREE.OFOUR.PIVE.OSIX.PEVEN.OEIGHT.ONINE.DTENS DIGIT ONE.OTWO.
PHREE.OFOUR.PIVE.OSIX.PEVEN.OEIGHT.ONINE.0IDEOGRAPHIC TALLY MARK ONE.NTWO.OHREE.NFOUR.OIVE.
0TALLY MARK ONE.BFIVE.@1D400.0MATHEMATICAL BOLD CAPITAL A.QB.QC.QD.QE.QF.QG.QH.QI.QJ.QK.QL.QM.
QN.QO.QP.QQ.QR.QS.QT.QU.QV.QW.QX.QY.QZ.ImA.OB.OC.OD.OE.OF.OG.OH.OI.OJ.OK.OL.OM.ON.OO.OP.OQ.OR.
OS.OT.OU.OV.OW.OX.OY.OZ.DITALIC CAPITAL A.SB.SC.SD.SE.SF.SG.SH.SI.SJ.SK.SL.SM.SN.SO.SP.SQ.SR.SS.
ST.SU.SV.SW.SX.SY.SZ.KmA.QB.QC.QD.QE.QF.QG.@1D456.QI.QJ.QK.QL.QM.QN.QO.QP.QQ.QR.QS.QT.QU.QV.QW.
QX.QY.QZ.DBOLD ITALIC CAPITAL A.XB.XC.XD.XE.XF.XG.XH.XI.XJ.XK.XL.XM.XN.XO.XP.XQ.XR.XS.XT.XU.XV.
XW.XX.XY.XZ.PmA.VB.VC.VD.VE.VF.VG.VH.VI.VJ.VK.VL.VM.VN.VO.VP.VQ.VR.VS.VT.VU.VV.VW.VX.VY.VZ.
DSCRIPT CAPITAL A.@1D49E.SC.SD.@1D4A2.SG.@1D4A5.SJ.SK.@1D4A9.SN.SO.SP.SQ.@1D4AE.SS.ST.SU.SV.SW.
SX.SY.SZ.KmA.QB.QC.QD.@1D4BB.QF.@1D4BD.QH.QI.QJ.QK.QL.QM.QN.@1D4C5.QP.QQ.QR.QS.QT.QU.QV.QW.QX.
QY.QZ.DBOLD SCRIPT CAPITAL A.XB.XC.XD.XE.XF.XG.XH.XI.XJ.XK.XL.XM.XN.XO.XP.XQ.XR.XS.XT.XU.XV.XW.
XX.XY.XZ.PmA.VB.VC.VD.VE.VF.VG.VH.VI.VJ.VK.VL.VM.VN.VO.VP.VQ.VR.VS.VT.VU.VV.VW.VX.VY.VZ.
DFRAKTUR CAPITAL A.TB.@1D507.TD.TE.TF.TG.@1D50D.TJ.TK.TL.TM.TN.TO.TP.TQ.@1D516.TS.TT.TU.TV.TW.
TX.TY.@1D51E.LmA.RB.RC.RD.RE.RF.RG.RH.RI.RJ.RK.RL.RM.RN.RO.RP.RQ.RR.RS.RT.RU.RV.RW.RX.RY.RZ.
DDOUBLE-STRUCK CAPITAL A.ZB.@1D53B.ZD.ZE.ZF.ZG.@1D540.ZI.ZJ.ZK.ZL.ZM.@1D546.ZO.@1D54A.ZS.ZT.ZU.
ZV.ZW.ZX.ZY.@1D552.RmA.XB.XC.XD.XE.XF.XG.XH.XI.XJ.XK.XL.XM.XN.XO.XP.XQ.XR.XS.XT.XU.XV.XW.XX.XY.
XZ.DBOLD FRAKTUR CAPITAL A.YB.YC.YD.YE.YF.YG.YH.YI.YJ.YK.YL.YM.YN.YO.YP.YQ.YR.YS.YT.YU.YV.YW.YX.
YY.YZ.QmA.WB.WC.WD.WE.WF.WG.WH.WI.WJ.WK.WL.WM.WN.WO.WP.WQ.WR.WS.WT.WU.WV.WW.WX.WY.WZ.
DSANS-SERIF CAPITAL A.WB.WC.WD.WE.WF.WG.WH.WI.WJ.WK.WL.WM.WN.WO.WP.WQ.WR.WS.WT.WU.WV.WW.WX.WY.
WZ.OmA.UB.UC.UD.UE.UF.UG.UH.UI.UJ.UK.UL.UM.UN.UO.UP.UQ.UR.US.UT.UU.UV.UW.UX.UY.UZ.
OBOLD CAPITAL A.ZL B.ZL C.ZL D.ZL E.ZL F.ZL G.ZL H.ZL I.ZL J.ZL K.ZL L.ZL M.ZL N.ZL O.ZL P.ZL Q.
ZL R.ZL S.ZL T.ZL U.ZL V.ZL W.ZL X.ZL Y.ZL Z.TmA.ZB.ZC.ZD.ZE.ZF.ZG.ZH.ZI.ZJ.ZK.ZL.ZM.ZN.ZO.ZP.
ZQ.ZR.ZS.ZT.ZU.ZV.ZW.ZX.ZY.ZZ.OITALIC CAPITAL A.ZTAL B.ZTAL C.ZTAL D.ZTAL E.ZTAL F.ZTAL G.
ZTAL H.ZTAL I.ZTAL J.ZTAL K.ZTAL L.ZTAL M.ZTAL N.ZTAL O.ZTAL P.ZTAL Q.ZTAL R.ZTAL S.ZTAL T.
ZTAL U.ZTAL V.ZTAL W.ZTAL X.ZTAL Y.ZTAL Z.VmA.ZL B.ZL C.ZL D.ZL E.ZL F.ZL G.ZL H.ZL I.ZL J.ZL K.
ZL L.ZL M.ZL N.ZL O.ZL P.ZL Q.ZL R.ZL S.ZL T.ZL U.ZL V.ZL W.ZL X.ZL Y.ZL Z.
OBOLD ITALIC CAPITAL A.Z CAPITAL B.Z CAPITAL C.Z CAPITAL D.Z CAPITAL E.Z CAPITAL F.Z CAPITAL G.
Z CAPITAL H.Z CAPITAL I.Z CAPITAL J.Z CAPITAL K.Z CAPITAL L.Z CAPITAL M.Z CAPITAL N.Z CAPITAL O.
Z CAPITAL P.Z CAPITAL Q.Z CAPITAL R.Z CAPITAL S.Z CAPITAL T.Z CAPITAL U.Z CAPITAL V.Z CAPITAL W.
Z CAPITAL X.Z CAPITAL Y.Z CAPITAL Z.Z mA.Z mB.Z mC.Z mD.Z mE.Z mF.Z mG.Z mH.Z mI.Z mJ.Z mK.Z mL.
Z mM.Z mN.Z mO.Z mP.Z mQ.Z mR.Z mS.Z mT.Z mU.Z mV.Z mW.Z mX.Z mY.Z mZ.DMONOSPACE CAPITAL A.VB.
VC.VD.VE.VF.VG.VH.VI.VJ.VK.VL.VM.VN.VO.VP.VQ.VR.VS.VT.VU.VV.VW.VX.VY.VZ.NmA.TB.TC.TD.TE.TF.TG.
TH.TI.TJ.TK.TL.TM.TN.TO.TP.TQ.TR.TS.TT.TU.TV.TW.TX.TY.TZ.DITALIC mDOTLESS I.YJ.@1D6A8.
DBOLD CAPITAL ALPHA.QBETA.QGAMMA.QDELTA.QEPSILON.QZETA.QETA.QTHETA.QIOTA.QKAPPA.QLAMDA.QMU.QNU.
QXI.QOMICRON.QPI.QRHO.QTHETAp.QSIGMA.QTAU.QUPSILON.QPHI.QCHI.QPSI.QOMEGA.INABLA.ImALPHA.OBETA.
OGAMMA.ODELTA.OEPSILON.OZETA.OETA.OTHETA.OIOTA.OKAPPA.OLAMDA.OMU.ONU.OXI.OOMICRON.OPI.ORHO.
OFINAL SIGMA.OSIGMA.OTAU.OUPSILON.OPHI.OCHI.OPSI.OOMEGA.IPARTIAL DIFFERENTIAL.IEPSILONp.ITHETAp.
IKAPPAp.IPHIp.IRHOp.IPIp.DITALIC CAPITAL ALPHA.SBETA.SGAMMA.SDELTA.SEPSILON.SZETA.SETA.STHETA.
SIOTA.SKAPPA.SLAMDA.SMU.SNU.SXI.SOMICRON.SPI.SRHO.STHETAp.SSIGMA.STAU.SUPSILON.SPHI.SCHI.SPSI.
SOMEGA.KNABLA.KmALPHA.QBETA.QGAMMA.QDELTA.QEPSILON.QZETA.QETA.QTHETA.QIOTA.QKAPPA.QLAMDA.QMU.
QNU.QXI.QOMICRON.QPI.QRHO.QFINAL SIGMA.QSIGMA.QTAU.QUPSILON.QPHI.QCHI.QPSI.QOMEGA.
KPARTIAL DIFFERENTIAL.KEPSILONp.KTHETAp.KKAPPAp.KPHIp.KRHOp.KPIp.DBOLD ITALIC CAPITAL ALPHA.
XBETA.XGAMMA.XDELTA.XEPSILON.XZETA.XETA.XTHETA.XIOTA.XKAPPA.XLAMDA.XMU.XNU.XXI.XOMICRON.XPI.
XRHO.XTHETAp.XSIGMA.XTAU.XUPSILON.XPHI.XCHI.XPSI.XOMEGA.PNABLA.PmALPHA.VBETA.VGAMMA.VDELTA.
VEPSILON.VZETA.VETA.VTHETA.VIOTA.VKAPPA.VLAMDA.VMU.VNU.VXI.VOMICRON.VPI.VRHO.VFINAL SIGMA.
VSIGMA.VTAU.VUPSILON.VPHI.VCHI.VPSI.VOMEGA.PPARTIAL DIFFERENTIAL.PEPSILONp.PTHETAp.PKAPPAp.
PPHIp.PRHOp.PPIp.DSANS-SERIF BOLD CAPITAL ALPHA.ZL BETA.ZL GAMMA.ZL DELTA.ZL EPSILON.ZL ZETA.
ZL ETA.ZL THETA.ZL IOTA.ZL KAPPA.ZL LAMDA.ZL MU.ZL NU.ZL XI.ZL OMICRON.ZL PI.ZL RHO.ZL THETAp.
ZL SIGMA.ZL TAU.ZL UPSILON.ZL PHI.ZL CHI.ZL PSI.ZL OMEGA.TNABLA.TmALPHA.ZBETA.ZGAMMA.ZDELTA.
ZEPSILON.ZZETA.ZETA.ZTHETA.ZIOTA.ZKAPPA.ZLAMDA.ZMU.ZNU.ZXI.ZOMICRON.ZPI.ZRHO.ZFINAL SIGMA.
ZSIGMA.ZTAU.ZUPSILON.ZPHI.ZCHI.ZPSI.ZOMEGA.TPARTIAL DIFFERENTIAL.TEPSILONp.TTHETAp.TKAPPAp.
TPHIp.TRHOp.TPIp.TITALIC CAPITAL ALPHA.Z CAPITAL BETA.Z CAPITAL GAMMA.Z CAPITAL DELTA.
Z CAPITAL EPSILON.Z CAPITAL ZETA.Z CAPITAL ETA.Z CAPITAL THETA.Z CAPITAL IOTA.Z CAPITAL KAPPA.
Z CAPITAL LAMDA.Z CAPITAL MU.Z CAPITAL NU.Z CAPITAL XI.Z CAPITAL OMICRON.Z CAPITAL PI.
Z CAPITAL RHO.Z CAPITAL THETAp.Z CAPITAL SIGMA.Z CAPITAL TAU.Z CAPITAL UPSILON.Z CAPITAL PHI.
Z CAPITAL CHI.Z CAPITAL PSI.Z CAPITAL OMEGA.Z NABLA.Z mALPHA.Z mBETA.Z mGAMMA.Z mDELTA.
Z mEPSILON.Z mZETA.Z mETA.Z mTHETA.Z mIOTA.Z mKAPPA.Z mLAMDA.Z mMU.Z mNU.Z mXI.Z mOMICRON.Z mPI.
Z mRHO.Z mFINAL SIGMA.Z mSIGMA.Z mTAU.Z mUPSILON.Z mPHI.Z mCHI.Z mPSI.Z mOMEGA.
Z PARTIAL DIFFERENTIAL.Z EPSILONp.Z THETAp.Z KAPPAp.Z PHIp.Z RHOp.Z PIp.DBOLD CAPITAL DIGAMMA.
ImDIGAMMA.@1D7CE.IDIGIT ZERO.OONE.OTWO.PHREE.OFOUR.PIVE.OSIX.PEVEN.OEIGHT.ONINE.
DDOUBLE-STRUCK DIGIT ZERO.XONE.XTWO.YHREE.XFOUR.YIVE.XSIX.YEVEN.XEIGHT.XNINE.
DSANS-SERIF DIGIT ZERO.UONE.UTWO.VHREE.UFOUR.VIVE.USIX.VEVEN.UEIGHT.UNINE.OBOLD DIGIT ZERO.ZONE.
ZTWO.ZTHREE.ZFOUR.ZFIVE.ZSIX.ZSEVEN.ZEIGHT.ZNINE.DMONOSPACE DIGIT ZERO.TONE.TTWO.UHREE.TFOUR.
UIVE.TSIX.UEVEN.TEIGHT.TNINE.0SIGNWRITg HAND-FIST INDEX.Hn INDEX.IUP INDEX.HOVAL INDEX.
HHgE INDEX.HANGLE INDEX.HFIST INDEX BENT.Hn INDEX BENT.HFIST THUMB UNDER INDEX BENT.
MINDEX RAISED KNUCKLE.SCUPPED.SHgED.Y LOW.Hn INDEX HgE.HFIST INDEX MIDDLE.Hn INDEX MIDDLE.
HFIST INDEX MIDDLE BENT.ZRAISED KNUCKLES.ZHgED.SUP MIDDLE HgED.SHgED MIDDLE UP.
SMIDDLE CONJOINED.ZCONJOINED INDEX BENT.ZCONJOINED MIDDLE BENT.ZCONJOINED CUPPED.
ZCONJOINED HgED.ZCROSSED.Hn INDEX MIDDLE CROSSED.HFIST MIDDLE BENT OVER INDEX.
MINDEX BENT OVER MIDDLE.SMIDDLE THUMB.Hn INDEX MIDDLE THUMB.
HFIST INDEX MIDDLE STRAIGHT THUMB BENT.ZBENT THUMB STRAIGHT.ZTHUMB BENT.ZHgED SPREAD THUMB SIDE.
SUP MIDDLE HgED THUMB SIDE.ZLE HgED THUMB CONJOINED.SHgED MIDDLE UP THUMB SIDE.
SMIDDLE UP SPREAD THUMB FoWARD.ZTHUMB CUPPED.ZTHUMB nD.ZTHUMB HOOKED.ZTHUMB HgED.
MTHUMB BETWEEN INDEX MIDDLE STRAIGHT.MINDEX MIDDLE CONJOINED THUMB SIDE.
ZCONJOINED THUMB SIDE CONJOINED.ZCONJOINED THUMB SIDE BENT.MMIDDLE THUMB HOOKED INDEX UP.
MINDEX THUMB HOOKED MIDDLE UP.SMIDDLE CONJOINED HgED THUMB SIDE.ZCROSSED THUMB SIDE.
ZCONJOINED THUMB FoWARD.ZCONJOINED CUPPED THUMB FoWARD.MMIDDLE THUMB CUPPED INDEX UP.
MINDEX THUMB CUPPED MIDDLE UP.MMIDDLE THUMB nD INDEX UP.ZnD INDEX HgED.
MINDEX THUMB ANGLED OUT MIDDLE UP.ZNGLED IN MIDDLE UP.YnD MIDDLE UP.
SMIDDLE THUMB CONJOINED HgED.ZTHUMB ANGLED OUT.ZTHUMB ANGLED.MMIDDLE THUMB ANGLED OUT INDEX UP.
ZANGLED OUT INDEX CROSSED.ZANGLED INDEX UP.MINDEX THUMB HOOKED MIDDLE HgED.ILAT FOUR FgERS.
Y BENT.ZHgED.ZCONJOINED.ZCONJOINED SPLIT.HCLAW FOUR FgERS CONJOINED.
HFIST FOUR FgERS CONJOINED BENT.HHgE FOUR FgERS CONJOINED.HFLAT FIVE FgERS SPREAD.
MHEEL FIVE FgERS SPREAD.MFIVE FgERS SPREAD FOUR BENT.MHEEL FIVE FgERS SPREAD FOUR BENT.
MFIVE FgERS SPREAD BENT.MHEEL FIVE FgERS SPREAD BENT.MFIVE FgERS SPREAD THUMB FoWARD.
HCUP FIVE FgERS SPREAD.ZPREAD OPEN.HHgE FIVE FgERS SPREAD OPEN.HOVAL FIVE FgERS SPREAD.
HFLAT FIVE FgERS SPREAD HgED.ZSPREAD HgED THUMB SIDE.ZSPREAD HgED NO THUMB.L.
L BETWEEN PALM FACgS.MHEEL.MTHUMB SIDE.MHEEL THUMB SIDE.MTHUMB BENT.SFoWARD.
MSPLIT INDEX THUMB SIDE.SCENTRE.Y THUMB SIDE.ZTHUMB SIDE BENT.SLITTLE.HCLAW.L THUMB SIDE.
MNO THUMB.MTHUMB FoWARD.HHOOK CURLICUE.L.HCUP OPEN.K.K OPEN THUMB SIDE.LTHUMB SIDE.
LOPEN NO THUMB.LNO THUMB.LOPEN THUMB FoWARD.LTHUMB FoWARD.JRLICUE OPEN.P.IIRCLE.HOVAL.
L THUMB SIDE.MNO THUMB.MTHUMB FoWARD.HHgE OPEN.R THUMB FoWARD.M.M SMALL.NOPEN THUMB SIDE.
NTHUMB SIDE.NOPEN NO THUMB.NNO THUMB.NTHUMB SIDE TOUCHg INDEX.TBETWEEN MIDDLE Rg.HANGLE.
HFIST INDEX MIDDLE Rg.Hn INDEX MIDDLE Rg.HHgE INDEX MIDDLE Rg.HANGLE INDEX MIDDLE Rg.
HHgE LITTLE.HFIST INDEX MIDDLE Rg BENT.ZRg CONJOINED.HHgE INDEX MIDDLE Rg CONJOINED.
HFIST LITTLE DOWN.X RIPPLE STRAIGHT.ZIPPLE CURVED.YOTHERS nD.TUP.MTHUMB UNDER LITTLE UP.
Hn LITTLE UP.HOVAL LITTLE UP.HANGLE LITTLE UP.HFIST LITTLE RAISED KNUCKLE.TBENT.TTOUCHES THUMB.
UHUMB.HHgE LITTLE THUMB.HFIST LITTLE INDEX THUMB.HHgE LITTLE INDEX THUMB.
HANGLE LITTLE INDEX THUMB INDEX THUMB OUT.Z THUMB INDEX THUMB.HFIST LITTLE INDEX.
Hn LITTLE INDEX.HHgE LITTLE INDEX.HANGLE LITTLE INDEX.HFIST INDEX MIDDLE LITTLE.
Hn INDEX MIDDLE LITTLE.HHgE INDEX MIDDLE LITTLE.NRg.HANGLE INDEX MIDDLE LITTLE.
HFIST INDEX MIDDLE CROSS LITTLE.Hn INDEX MIDDLE CROSS LITTLE.HFIST Rg DOWN.
HHgE Rg DOWN INDEX THUMB HOOK MIDDLE.HANGLE Rg DOWN MIDDLE THUMB INDEX CROSS.HFIST Rg UP.
RRAISED KNUCKLE.RLITTLE.Hn Rg LITTLE.HOVAL Rg LITTLE.HANGLE Rg LITTLE.HFIST Rg MIDDLE.
X CONJOINED.YRAISED KNUCKLES.RINDEX.RTHUMB.HHOOK Rg THUMB.HFIST INDEX Rg LITTLE.
Hn INDEX Rg LITTLE.IURLICUE INDEX Rg LITTLE ON.HHOOK INDEX Rg LITTLE OUT.ZTTLE IN.ZTTLE UNDER.
HCUP INDEX Rg LITTLE.HHgE INDEX Rg LITTLE.HANGLE INDEX Rg LITTLE OUT.ZITTLE.HFIST MIDDLE DOWN.
HHgE MIDDLE.HFIST MIDDLE UP.Hn MIDDLE UP.HFIST MIDDLE RAISED KNUCKLE.TUP THUMB SIDE.
HHOOK MIDDLE THUMB.HFIST MIDDLE THUMB LITTLE.TLITTLE.TRg LITTLE.Hn MIDDLE Rg LITTLE.
IURLICUE MIDDLE Rg LITTLE ON.JP MIDDLE Rg LITTLE.HHgE MIDDLE Rg LITTLE.
HANGLE MIDDLE Rg LITTLE OUT.ZLITTLE IN.ZLITTLE.Hn MIDDLE Rg LITTLE BENT.
ILAW MIDDLE Rg LITTLE CONJOINED.ZITTLE CONJOINED SIDE.HHOOK MIDDLE Rg LITTLE CONJOINED OUT.
ZITTLE CONJOINED IN.ZITTLE CONJOINED.IgE INDEX HgED.HFIST INDEX THUMB SIDE.
HHgE INDEX THUMB SIDE.HFIST INDEX THUMB SIDE THUMB DIAGONAL.ZIDE THUMB CONJOINED.
ZIDE THUMB BENT.ZIDE INDEX BENT.ZIDE BOTH BENT.ZIDE INDEX HgE.YFoWARD INDEX STRAIGHT.
ZoWARD INDEX BENT.YHOOK.YCURLICUE.ZURVE THUMB INSIDE.HCLAW INDEX THUMB CURVE THUMB INSIDE.
HFIST INDEX THUMB CURVE THUMB UNDER.ZIRCLE.HCUP INDEX THUMB.W OPEN.HHgE INDEX THUMB OPEN.ZLARGE.
Y.Y SMALL.HANGLE INDEX THUMB OUT.ZIN.Y.HFIST THUMB.R HEEL.SSIDE DIAGONAL.XCONJOINED.XBENT.
SFoWARD.SBETWEEN INDEX MIDDLE.Z MIDDLE Rg.Z Rg LITTLE.SUNDER TWO FgERS.SOVER TWO FgERS.
SUNDER THREE FgERS.YFOUR FgERS.SOVER FOUR RAISED KNUCKLES.L.L HEEL.CTOUCH SgLE.IMULTIPLE.
IBETWEEN.CGRASP SgLE.IMULTIPLE.IBETWEEN.CSTRIKE SgLE.JMULTIPLE.JBETWEEN.CBRUSH SgLE.IMULTIPLE.
IBETWEEN.CRUB SgLE.GMULTIPLE.GBETWEEN.CSURFACEpS.KBETWEEN.DQUEEZE LARGE SgLE.KmSgLE.
KLARGE MULTIPLE.KmMULTIPLE.LEQUENTIAL.CFLICK LARGE SgLE.ImSgLE.ILARGE MULTIPLE.ImMULTIPLE.
JEQUENTIAL.CSQUEEZE FLICK ALTERNATg.CMOVEMENT-HgE UP DOWN LARGE.ZSMALL.USEQUENTIAL.
RDOWN SEQUENTIAL.RUP DOWN ALTERNATg LARGE.ZALTERNATg SMALL.RSIDE TO SIDE SCISSoS.
LWALLPLANE FgER CONTACT.LFLOoPLANE FgER CONTACT.LWALLPLANE SgLE STRAIGHT SMALL.
ZLE STRAIGHT MEDIUM.ZLE STRAIGHT LARGE.ZLE STRAIGHT LARGEST.ZLE WRIST FLEX.VdSTRAIGHT.
ZLE WRIST FLEX.ZLE ALTERNATg.ZLE ALTERNATg WRIST FLEX.VCROSS.VTRIPLE STRAIGHT MOVEMENT.
ZLE WRIST FLEX.ZLE ALTERNATg.ZLE ALTERNATg WRIST FLEX.VBEND SMALL.Z MEDIUM.Z LARGE.VCoNER SMALL.
ZER MEDIUM.ZER LARGE.ZER ROTAy.WHECK SMALL.ZK MEDIUM.ZK LARGE.VBOX SMALL.ZMEDIUM.ZLARGE.
VZIGZAG SMALL.ZAG MEDIUM.ZAG LARGE.VPEAKS SMALL.ZS MEDIUM.ZS LARGE.
CTRAVEL-WALLPLANE ROTAy-WALLPLANE SgLE.ZON-WALLPLANE DOUBLE.ZON-WALLPLANE ALTERNATg.
ZON-FLOoPLANE SgLE.ZON-FLOoPLANE DOUBLE.ZON-FLOoPLANE ALTERNATg.TSHAKg.TARM SPIRAL SgLE.
ZIRAL DOUBLE.ZIRAL TRIPLE.CMOVEMENT-DIAGONAL AWAY SMALL.ZMEDIUM.ZLARGE.ZLARGEST.UTOuSMALL.
ZDS MEDIUM.ZDS LARGE.ZDS LARGEST.UBETWEEN AWAY SMALL.ZEN AWAY MEDIUM.ZEN AWAY LARGE.
ZEN AWAY LARGEST.ZEN TOuSMALL.ZEN TOuMEDIUM.ZEN TOuLARGE.ZEN TOuLARGEST.
LFLOoPLANE SgLE STRAIGHT SMALL.ZGLE STRAIGHT MEDIUM.ZGLE STRAIGHT LARGE.ZGLE STRAIGHT LARGEST.
ZGLE WRIST FLEX.WdSTRAIGHT.ZBLE WRIST FLEX.ZBLE ALTERNATg.ZBLE ALTERNATg WRIST FLEX.WCROSS.
WTRIPLE STRAIGHT MOVEMENT.ZPLE WRIST FLEX.ZPLE ALTERNATg MOVEMENT.ZPLE ALTERNATg WRIST FLEX.
WBEND.WCoNER SMALL.ZNER MEDIUM.ZNER LARGE.XHECK.WBOX SMALL.Z MEDIUM.Z LARGE.WZIGZAG SMALL.
ZZAG MEDIUM.ZZAG LARGE.WPEAKS SMALL.ZKS MEDIUM.ZKS LARGE.CTRAVEL-FLOoPLANE ROTAy-FLOoPLANE SgLE.
ZION-FLOoPLANE DOUBLE.ZION-FLOoPLANE ALTERNATg.ZION-WALLPLANE SgLE.ZION-WALLPLANE DOUBLE.
ZION-WALLPLANE ALTERNATg.USHAKg.CMOVEMENT-WALLPLANE CURVE QUARTER SMALL.ZE QUARTER MEDIUM.
ZE QUARTER LARGE.ZE QUARTER LARGEST.ZE HALF-n SMALL.ZE HALF-n MEDIUM.ZE HALF-n LARGE.
ZE HALF-n LARGEST.ZE THREE-QUARTER n SMALL.ZE THREE-QUARTER n MEDIUM.VHUMP SMALL.Z MEDIUM.
Z LARGE.VLOOP SMALL.Z MEDIUM.Z LARGE.Z mDOUBLE.VWAVE CURVE dSMALL.Z CURVE dMEDIUM.
Z CURVE dLARGE.Z CURVE TRIPLE SMALL.Z CURVE TRIPLE MEDIUM.Z CURVE TRIPLE LARGE.
VCURVE THEN STRAIGHT.ZED CROSS SMALL.ZED CROSS MEDIUM.CROTAy-WALLPLANE SgLE.VDOUBLE.VALTERNATE.
CMOVEMENT-WALLPLANE SHAKg.VCURVE HITTg FRONT WALL.VHUMP HITTg FRONT WALL.VLOOP HITTg FRONT WALL.
VWAVE HITTg FRONT WALL.CROTAy-WALLPLANE SgLE HITTg FRONT WALL.VdHITTg FRONT WALL.
VALTERNATg HITTg FRONT WALL.CMOVEMENT-WALLPLANE CURVE HITTg CHEST.VHUMP HITTg CHEST.
VLOOP HITTg CHEST.VWAVE HITTg CHEST.CROTAy-WALLPLANE SgLE HITTg CHEST.VdHITTg CHEST.
VALTERNATg HITTg CHEST.CMOVEMENT-WALLPLANE WAVE DIAGONAL PATH SMALL.Z DIAGONAL PATH MEDIUM.
Z DIAGONAL PATH LARGE.LFLOoPLANE CURVE HITTg CEILg SMALL.ZVE HITTg CEILg LARGE.
WHUMP HITTg CEILg mDOUBLE.ZP HITTg CEILg LARGE DOUBLE.ZP HITTg CEILg mTRIPLE.
ZP HITTg CEILg LARGE TRIPLE.WLOOP HITTg CEILg mSgLE.ZP HITTg CEILg LARGE SgLE.
ZP HITTg CEILg mDOUBLE.ZP HITTg CEILg LARGE DOUBLE.WWAVE HITTg CEILg SMALL.ZE HITTg CEILg LARGE.
CROTAy-FLOoPLANE SgLE HITTg CEILg.WdHITTg CEILg.WALTERNATg HITTg CEILg.
CMOVEMENT-FLOoPLANE CURVE HITTg FLOo SMALL.ZVE HITTg FLOo LARGE.WHUMP HITTg FLOo mDOUBLE.
ZP HITTg FLOo LARGE DOUBLE.ZP HITTg FLOo TRIPLE mTRIPLE.ZP HITTg FLOo TRIPLE LARGE TRIPLE.
WLOOP HITTg FLOo mSgLE.ZP HITTg FLOo LARGE SgLE.ZP HITTg FLOo mDOUBLE.
ZP HITTg FLOo LARGE DOUBLE.WWAVE HITTg FLOo SMALL.ZE HITTg FLOo LARGE.
CROTAy-FLOoPLANE SgLE HITTg FLOo.WdHITTg FLOo.WALTERNATg HITTg FLOo.
CMOVEMENT-FLOoPLANE CURVE SMALL.ZVE MEDIUM.ZVE LARGE.ZVE LARGEST.ZVE COMBINED.WHUMP SMALL.
WLOOP SMALL.WWAVE SNAKE.ZE SMALL.ZE LARGE.CROTAy-FLOoPLANE SgLE.WDOUBLE.WALTERNATg.
CMOVEMENT-FLOoPLANE SHAKg PARALLEL.LWALLPLANE ARM n mSgLE.Zn MEDIUM SgLE.Zn mDOUBLE.
Zn MEDIUM DOUBLE.LFLOoPLANE ARM n HITTg WALL mSgLE.Z n HITTg WALL MEDIUM SgLE.
Z n HITTg WALL LARGE SgLE.Z n HITTg WALL mDOUBLE.Z n HITTg WALL MEDIUM DOUBLE.
Z n HITTg WALL LARGE DOUBLE.LWALLPLANE WRIST n FRONT SgLE.ZT n FRONT DOUBLE.
LFLOoPLANE WRIST n HITTg WALL SgLE.ZST n HITTg WALL DOUBLE.LWALLPLANE FgER nS SgLE.
ZER nS DOUBLE.LFLOoPLANE FgER nS HITTg WALL SgLE.ZGER nS HITTg WALL DOUBLE.CDYNAMIC rHEAD SMALL.
ULARGE.KFAST.KSLOW.KTENSE.KRELAXED.KSIMULTANEOUS.W ALTERNATg.KEVERY OTHER TIME.KGRADUAL.CHEAD.
G RIM.HMOVEMENT-WALLPLANE STRAIGHT.Z TILT.QFLOoPLANE STRAIGHT.QWALLPLANE CURVE.QFLOoPLANE CURVE.
P n.CFACE DIRECy POSIy NOSE FoWARD TILTg.Z NOSE UP o DOWN.Z NOSE UP o DOWN TILTg.
CEYEBROWS STRAIGHT UP.UNEUTRAL.UDOWN.CDREAMY EYEBROWS NEUTRAL DOWN.SDOWN NEUTRAL.SUP NEUTRAL.
SNEUTRAL UP.CFoEHEAD NEUTRAL.LCONTACT.LWRINKLED.CEYES OPEN.HSQUEEZED.HCLOSED.F BLINK SgLE.
MMULTIPLE.FS HALF OPEN.HWIDE OPEN.HHALF CLOSED.HWIDENg MOVEMENT.F WINK.FLASHES UP.MDOWN.
MFLUTTERg.FGAZE-WALLPLANE STRAIGHT.ZGHT DOUBLE.ZGHT ALTERNATg.KFLOoPLANE STRAIGHT.ZIGHT DOUBLE.
ZIGHT ALTERNATg.KWALLPLANE CURVED.KFLOoPLANE CURVED.KWALLPLANE CIRCLg.CCHEEKS PUFFED.JNEUTRAL.
JSUCKED.CTENSE CHEEKS HIGH.PMIDDLE.PLOW.CEARS.CNOSE NEUTRAL.HCONTACT.HWRINKLES.IIGGLES.
CAIR BLOWg OUT.GSUCKg IN.GBLOW mROTAyS.GSUCK mROTAyS.CBREATH INHALE.JEXHALE.
CMOUTH CLOSED NEUTRAL.PFoWARD.PCONTACT.ISMILE.N WRINKLED.OOPEN.IFROWN.N WRINKLED.OOPEN.IOPEN n.
NFoWARD.NWRINKLED.NOVAL.R WRINKLED.SYAWN.NRECTANGLE.W WRINKLED.XYAWN.IKISS.M FoWARD.NWRINKLED.
ITENSE.N FoWARD.OSUCKED.CLIPS PRESSED TOGETHER.F LOWER OVER UPPER.GUPPER OVER LOWER.
CMOUTH CoNERS.IWRINKLES SgLE.RDOUBLE.CTONGUE STICKg OUT FAR.JLICKg LIPS.JTIP BETWEEN LIPS.
NTOUCHg INSIDE MOUTH.JINSIDE MOUTH RELAXED.JMOVES AGAINST CHEEK.JCENTRE STICKg OUT.
QINSIDE MOUTH.DEETH.H MOVEMENT.ION TONGUE.R MOVEMENT.LLIPS.P MOVEMENT.IBITE LIPS.
CMOVEMENT-WALLPLANE JAW.LFLOoPLANE JAW.CNECK.CHAIR.CEXCITEMENT.CSHOULDER HIP SPINE.PPOSIyS.
CWALLPLANE SHOULDER HIP MOVE.CFLOoPLANE SHOULDER HIP MOVE.CSHOULDER TILTg FROM WAIST.
CToSO-WALLPLANE STRAIGHT STRETCH.SCURVED BEND.IFLOoPLANE TWISTg.
CUPPER BODY TILTg FROM HIP JOINTS.CLIMB COMBINAy.HLENGTH-1.O2.O3.O4.O5.O6.O7.CFgER.
CLOCAy-WALLPLANE SPACE.LFLOoPLANE SPACE.K HEIGHT.LWIDTH.LDEPTH.LHEAD NECK.LToSO.LLIMBS DIGITS.
CCOMMA.CFULL STOP.CSEMICOLON.CCOLON.CPARENTHESIS.@1DA9B.CFILL MODIFIER-2.Q3.Q4.Q5.Q6.@1DAA1.
CROTAy MODIFIER-2.U3.U4.U5.U6.U7.U8.U9.U10.V1.V2.V3.V4.V5.V6.@1DF00.0LATIN sFENG DIGRAPHwTRILL.
JREVERSED SCRIPT G.6lmCAPITAL TURNED G.6sREVERSED K.6lmCAPITAL LwBELT.6sLEZHwRETROFLEX HOOK.
JTURNED YwBELT.JREVERSED ENG.JTURNED RwLONG LEGaRETROFLEX HOOK.KwHOOKaRETROFLEX HOOK.
6lRETROFLEX CLICKwRETROFLEX HOOK.6sESHwdBAR.ZBARaCURL.JTURNED TwCURL.
6lINVERTED GLOTTAL STOPwCURL.DSTRETCHED CwCURL.EMALL CAPITAL TURNED K.6sLwFISHHOOK.
JDEZH DIGRAPHwPALATAL HOOK.JLwBELTaPALATAL HOOK.JENGwPALATAL HOOK.JTURNED RwPALATAL HOOK.
JRwFISHHOOKaPALATAL HOOK.JTESH DIGRAPHwPALATAL HOOK.JEZHwPALATAL HOOK.
JDEZH DIGRAPHwRETROFLEX HOOK.JIwSTROKEaRETROFLEX HOOK.JOwRETROFLEX HOOK.
JTESH DIGRAPHwRETROFLEX HOOK.JCwRETROFLEX HOOK.JSwCURL.@1E000.0COMBINg GLAGOLITIC lAZU.SBUKY.
SVEDE.SGLAGOLI.SDOBRO.SYESTU.SZHIVETE.@1E008.TEMLJA.SIZHE.TNITIAL IZHE.T.SDJERVI.SKAKO.SLJUDIJE.
SMYSLITE.SNASHI.SONU.SPOKOJI.SRITSI.SSLOVO.STVRIDO.SUKU.SFRITU.SHERU.@1E01B.SSHTA.STSI.SCHRIVI.
SSHA.SYERU.VI.TATI.@1E023.TU.SmYUS.@1E026.SYO.SIOTATED mYUS.SBIG YUS.SIOTATED BIG YUS.SFITA.
@1E100.0NYIAKENG PUACHUE HMONG lMA.UTSA.UNTA.UTA.UHA.UNA.UXA.UNKA.UCA.ULA.USA.UZA.UNCA.VTSA.UKA.
UDA.UNYA.VRA.UVA.UNTXA.UTXA.UFA.URA.UQA.UYA.UNQA.UPA.UXYA.UNPA.UDLA.UNPLA.UHAH.UMLA.UPLA.UGA.
URRA.UA.VA.UI.UU.UO.VO.UE.VE.UW.@1E130.NTONE-B.SM.SJ.SV.SS.SG.SD.NSIGN Fo PERSON.WTHg.WLOCAy.
WANIMAL.WINVERTEBRATE.SXW XW.OYLLABLE LENGTHENER.@1E140.NDIGIT ZERO.TONE.TTWO.UHREE.TFOUR.UIVE.
TSIX.UEVEN.TEIGHT.TNINE.@1E14E.NLOGOGRAM NYAJ.NnD CA.@1E290.0TOTO lPA.CBA.CTA.CDA.CKA.CGA.CMA.
CNA.DGA.CSA.CCHA.CYA.CWA.CJA.CHA.CRA.CLA.CI.CBREATHY I.CIU.CBREATHY IU.CU.CE.CBREATHY E.CEO.
CBREATHY EO.CO.CAE.CBREATHY AE.CA.5SIGN RISg TONE.@1E2C0.0WANCHO lAA.F.EBA.ECA.EDA.EGA.EYA.EPHA.
ELA.ENA.EPA.ETA.FHA.EFA.ESA.FHA.EJA.EZA.EWA.EVA.EKA.EO.EAU.ERA.EMA.EKHA.EHA.EE.EI.ENGA.EU.ELLHA.
ETSA.FRA.EONG.EAANG.FNG.Eg.EON.EEN.EAAN.ENYA.EUEN.EYIH.7TONE TUP.FNI.CKOI.FNI.7DIGIT ZERO.DONE.
DTWO.EHREE.DFOUR.EIVE.DSIX.EEVEN.DEIGHT.DNINE.@1E2FF.7NGUNx.@1E7E0.0ETHIOPIC SYLLABLE HHYA.LU.
LI.LAA.LEE.M.LO.@1E7E8.IGURAGE HHWA.IHHWI.LEE.M.@1E7ED.IGURAGE MWI.REE.@1E7F0.PQWI.REE.S.PBWI.
REE.PKWI.REE.S.PGWI.REE.S.PFWI.REE.PPWI.REE.@1E800.0MENDE KIKAKUI SYLLABLE M001 KI.Q2 KA.Q3 KU.
P65 KEE.P95 KE.P76 KOO.P48 KO.O179 KUA.O004 WI.Q5 WA.Q6 WU.O126 WEE.P18 WE.Q4 WOO.O045 WO.
O194 WUI.P43 WEI.O061 WVI.P49 WVA.O139 WVE.O007 MIN.Q8 MAN.Q9 MUN.P59 MEN.P94 MON.O154 MUAN.
P89 MUEN.O010 BI.Q1 BA.Q2 BU.O150 BEE.O097 BE.O103 BOO.P38 BO.O013 I.Q4 A.Q5 U.O163 EE.P00 E.
P65 OO.P47 O.P37 EI.Q1 IN.Q5 IN.P95 AN.P78 EN.O019 SI.P20 SA.Q1 SU.O162 SEE.P16 SE.P36 SOO.
O079 SO.O196 SIA.O025 LI.Q6 LA.Q7 LU.P84 LEE.P73 LE.P54 LOO.O153 LO.P10 LONG LE.O016 DI.Q7 DA.
Q8 DU.P89 DEE.O180 DOO.Q1 DO.O022 TI.Q3 TA.Q4 TU.P91 TEE.P55 TE.O104 TOO.O069 TO.P28 JI.Q9 JA.
P30 JU.O157 JEE.P13 JE.P60 JOO.O063 JO.O175 LONG JO.O031 YI.Q2 YA.Q3 YU.O109 YEE.O080 YE.
O141 YOO.P21 YO.O034 FI.Q5 FA.Q6 FU.P78 FEE.Q5 FE.O133 FOO.O088 FO.O197 FUA.P01 FAN.O037 NIN.
Q8 NAN.Q9 NUN.O117 NEN.P69 NON.P76 HI.O041 HA.O186 HU.O040 HEE.P96 HE.P42 HOO.O140 HO.O083 HEEI.
O128 HOOU.O053 HIN.O130 HAN.O087 HUN.P52 HEN.O193 HON.O046 HUAN.P90 NGGI.P43 NGGA.P82 NGGU.
O115 NGGEE.P46 NGGE.P56 NGGOO.P20 NGGO.P59 NGGAA.P27 NGGUA.O086 LONG NGGE.O106 LONG NGGOO.
P83 LONG NGGO.P55 GI.P11 GA.P68 GU.P90 GEE.P66 GUEI.Q7 GUAN.P84 NGEN.O057 NGON.O177 NGUAN.
O068 PI.P99 PA.P50 PU.P81 PEE.P51 PE.O102 POO.O066 PO.O145 MBI.O062 MBA.O122 MBU.O047 MBEE.
O188 MBEE.O072 MBE.O172 MBOO.Q4 MBO.P87 MBUU.P61 LONG MBE.P05 LONG MBOO.P42 LONG MBO.P32 KPI.
O092 KPA.P74 KPU.P44 KPEE.O108 KPE.P12 KPOO.P58 KPO.P24 GBI.O056 GBA.O148 GBU.O093 GBEE.
O107 GBE.O071 GBOO.Q0 GBO.O171 RA.P23 NDI.Q9 NDA.Q5 NDU.P91 NDEE.P19 NDE.O067 NDOO.Q4 NDO.
O152 NJA.P92 NJU.P49 NJEE.P34 NJOO.P82 VI.Q5 VA.P51 VU.P73 VEE.O085 VE.O144 VOO.O077 VO.
O164 NYIN.O058 NYAN.O170 NYUN.O098 NYEN.P60 NYON.@1E8C7.EDIGIT ONE.KTWO.LHREE.KFOUR.LIVE.KSIX.
LEVEN.KEIGHT.KNINE.ECOMBINg NUMBER TEENS.XNS.VHUNDREDS.VTHOUSANDS.WEN THOUSANDS.
VHUNDRED THOUSANDS.VMILLIONS.@1E900.0ADLAM cALIF.LDAALI.LLAAM.LMIIM.LBA.LSINNYIIYHE.LPE.LBHE.
LRA.LE.LFA.LI.LO.LDHA.LYHE.LWAW.LNUN.LKAF.LYA.LU.LJIIM.LCHI.LHA.LQAAF.LGA.LNYA.LTU.LNHA.LVA.
LKHA.LGBE.LZAL.LKPO.LSHA.6sALIF.JDAALI.JLAAM.JMIIM.JBA.JSINNYIIYHE.JPE.JBHE.JRA.JE.JFA.JI.JO.
JDHA.JYHE.JWAW.JNUN.JKAF.JYA.JU.JJIIM.JCHI.JHA.JQAAF.JGA.JNYA.JTU.JNHA.JVA.JKHA.JGBE.JZAL.JKPO.
JSHA.6ALIF LENGTHENER.6VOWEL LENGTHENER.6GEMINAy MARK.6HAMZA.6CONSONANT MODIFIER.
6GEMINATE CONSONANT MODIFIER.6NUKTA.7ASALIZAy MARK.@1E950.6DIGIT ZERO.CONE.CTWO.DHREE.CFOUR.
DIVE.CSIX.DEVEN.CEIGHT.CNINE.@1E95E.6INITIAL EXCLAMAy MARK.EQUESy MARK.@1EC71.
0INDIC SIYAQ NUMBER ONE.JTWO.KHREE.JFOUR.KIVE.JSIX.KEVEN.JEIGHT.JNINE.JTEN.KWENTY.KHIRTY.JFoTY.
KIFTY.JSIXTY.KEVENTY.JEIGHTY.JNINETY.JONE HUNDRED.JTWO HUNDRED.KHREE HUNDRED.JFOUR HUNDRED.
KIVE HUNDRED.JSIX HUNDRED.KEVEN HUNDRED.JEIGHT HUNDRED.JNINE HUNDRED.JONE THOUSAND.
JTWO THOUSAND.KHREE THOUSAND.JFOUR THOUSAND.KIVE THOUSAND.JSIX THOUSAND.KEVEN THOUSAND.
JEIGHT THOUSAND.JNINE THOUSAND.JTEN THOUSAND.KWENTY THOUSAND.KHIRTY THOUSAND.JFoTY THOUSAND.
KIFTY THOUSAND.JSIXTY THOUSAND.KEVENTY THOUSAND.JEIGHTY THOUSAND.JNINETY THOUSAND.JLAKH.NAN.
CLAKH MARK.CNUMBER KARo.OAN.JPREFIXED ONE.STWO.THREE.SFOUR.TIVE.SSIX.TEVEN.SEIGHT.SNINE.
CPLACEHOLDER.CFRACy ONE QUARTER.PHALF.LTHREE QUARTERS.CRUPEE MARK.CNUMBER ALTERNATE ONE.TTWO.
UEN THOUSAND.CALTERNATE LAKH MARK.@1ED01.0OTTOMAN SIYAQ NUMBER ONE.LTWO.MHREE.LFOUR.MIVE.LSIX.
MEVEN.LEIGHT.LNINE.LTEN.MWENTY.MHIRTY.LFoTY.MIFTY.LSIXTY.MEVENTY.LEIGHTY.LNINETY.LONE HUNDRED.
LTWO HUNDRED.MHREE HUNDRED.LFOUR HUNDRED.MIVE HUNDRED.LSIX HUNDRED.MEVEN HUNDRED.LEIGHT HUNDRED.
LNINE HUNDRED.LONE THOUSAND.LTWO THOUSAND.MHREE THOUSAND.LFOUR THOUSAND.MIVE THOUSAND.
LSIX THOUSAND.MEVEN THOUSAND.LEIGHT THOUSAND.LNINE THOUSAND.LTEN THOUSAND.MWENTY THOUSAND.
MHIRTY THOUSAND.LFoTY THOUSAND.MIFTY THOUSAND.LSIXTY THOUSAND.MEVENTY THOUSAND.LEIGHTY THOUSAND.
LNINETY THOUSAND.EMARRATAN.EALTERNATE NUMBER TWO.WHREE.VFOUR.WIVE.VSIX.WEVEN.VEIGHT.VNINE.VTEN.
VFOUR HUNDRED.VSIX HUNDRED.VTWO THOUSAND.WEN THOUSAND.EFRACy ONE HALF.RSIXTH.@1EE00.
0ARABIC MATHEMATICAL ALEF.KBEH.KJEEM.KDAL.@1EE05.KWAW.KZAIN.KHAH.KTAH.KYEH.KKAF.KLAM.KMEEM.
KNOON.KSEEN.KAIN.KFEH.KSAD.KQAF.KREH.KSHEEN.KTEH.LHEH.KKHAH.KTHAL.KDAD.KZAH.KGHAIN.KDOTLESS BEH.
SNOON.SFEH.SQAF.@1EE21.KINITIAL BEH.SJEEM.@1EE24.SHEH.@1EE27.TAH.@1EE29.SYEH.SKAF.SLAM.SMEEM.
SNOON.SSEEN.SAIN.SFEH.SSAD.SQAF.@1EE34.SSHEEN.STEH.THEH.SKHAH.@1EE39.SDAD.@1EE3B.SGHAIN.@1EE42.
KTAILED JEEM.@1EE47.RHAH.@1EE49.RYEH.@1EE4B.RLAM.@1EE4D.RNOON.RSEEN.RAIN.@1EE51.RSAD.RQAF.
@1EE54.RSHEEN.@1EE57.RKHAH.@1EE59.RDAD.@1EE5B.RGHAIN.@1EE5D.RDOTLESS NOON.@1EE5F.ZQAF.@1EE61.
KSTRETCHED BEH.UJEEM.@1EE64.UHEH.@1EE67.VAH.UTAH.UYEH.UKAF.@1EE6C.UMEEM.UNOON.USEEN.UAIN.UFEH.
USAD.UQAF.@1EE74.USHEEN.UTEH.VHEH.UKHAH.@1EE79.UDAD.UZAH.UGHAIN.UDOTLESS BEH.@1EE7E.ZSS FEH.
@1EE80.KLOOPED ALEF.RBEH.RJEEM.RDAL.RHEH.RWAW.RZAIN.RHAH.RTAH.RYEH.@1EE8B.RLAM.RMEEM.RNOON.
RSEEN.RAIN.RFEH.RSAD.RQAF.RREH.RSHEEN.RTEH.SHEH.RKHAH.RTHAL.RDAD.RZAH.RGHAIN.@1EEA1.
KDOUBLE-STRUCK BEH.YJEEM.YDAL.@1EEA5.YWAW.YZAIN.YHAH.YTAH.YYEH.@1EEAB.YLAM.YMEEM.YNOON.YSEEN.
YAIN.YFEH.YSAD.YQAF.YREH.YSHEEN.YTEH.ZHEH.YKHAH.YTHAL.YDAD.YZAH.YGHAIN.@1EEF0.
KOPERATo MEEMwHAHwTATWEEL.THAHwDAL.@1F000.0MAHJONG TILE EAST WIND.DSOUTH WIND.DWEST WIND.
DNoTH WIND.DRED DRAGON.DGREEN DRAGON.DWHITE DRAGON.DONE OF CHARACTERS.DTWO OF CHARACTERS.
EHREE OF CHARACTERS.DFOUR OF CHARACTERS.EIVE OF CHARACTERS.DSIX OF CHARACTERS.
EEVEN OF CHARACTERS.DEIGHT OF CHARACTERS.DNINE OF CHARACTERS.DONE OF BAMBOOS.DTWO OF BAMBOOS.
EHREE OF BAMBOOS.DFOUR OF BAMBOOS.EIVE OF BAMBOOS.DSIX OF BAMBOOS.EEVEN OF BAMBOOS.
DEIGHT OF BAMBOOS.DNINE OF BAMBOOS.DONE OF nS.DTWO OF nS.EHREE OF nS.DFOUR OF nS.EIVE OF nS.
DSIX OF nS.EEVEN OF nS.DEIGHT OF nS.DNINE OF nS.DPLUM.DoCHID.DBAMBOO.DCHRYSANTHEMUM.DSPRg.
EUMMER.DAUTUMN.DWINTER.DJOKER.DBACK.@1F030.0DOMINO TILE HoIZONTAL BACK.M-00-00.R1.R2.R3.R4.R5.
R6.O1-00.R1.R2.R3.R4.R5.R6.O2-00.R1.R2.R3.R4.R5.R6.O3-00.R1.R2.R3.R4.R5.R6.O4-00.R1.R2.R3.R4.R5.
R6.O5-00.R1.R2.R3.R4.R5.R6.O6-00.R1.R2.R3.R4.R5.R6.CqBACK.K-00-00.P1.P2.P3.P4.P5.P6.M1-00.P1.P2.
P3.P4.P5.P6.M2-00.P1.P2.P3.P4.P5.P6.M3-00.P1.P2.P3.P4.P5.P6.M4-00.P1.P2.P3.P4.P5.P6.M5-00.P1.P2.
P3.P4.P5.P6.M6-00.P1.P2.P3.P4.P5.P6.@1F0A0.0PLAYg CARD BACK.DACE OF SPADES.DTWO OF SPADES.
EHREE OF SPADES.DFOUR OF SPADES.EIVE OF SPADES.DSIX OF SPADES.EEVEN OF SPADES.DEIGHT OF SPADES.
DNINE OF SPADES.DTEN OF SPADES.DJACK OF SPADES.DKNIGHT OF SPADES.DQUEEN OF SPADES.DKg OF SPADES.
@1F0B1.DACE OF HEARTS.DTWO OF HEARTS.EHREE OF HEARTS.DFOUR OF HEARTS.EIVE OF HEARTS.
DSIX OF HEARTS.EEVEN OF HEARTS.DEIGHT OF HEARTS.DNINE OF HEARTS.DTEN OF HEARTS.DJACK OF HEARTS.
DKNIGHT OF HEARTS.DQUEEN OF HEARTS.DKg OF HEARTS.DRED JOKER.@1F0C1.DACE OF DIAMONDS.
DTWO OF DIAMONDS.EHREE OF DIAMONDS.DFOUR OF DIAMONDS.EIVE OF DIAMONDS.DSIX OF DIAMONDS.
EEVEN OF DIAMONDS.DEIGHT OF DIAMONDS.DNINE OF DIAMONDS.DTEN OF DIAMONDS.DJACK OF DIAMONDS.
DKNIGHT OF DIAMONDS.DQUEEN OF DIAMONDS.DKg OF DIAMONDS.DBLACK JOKER.@1F0D1.DACE OF CLUBS.
DTWO OF CLUBS.EHREE OF CLUBS.DFOUR OF CLUBS.EIVE OF CLUBS.DSIX OF CLUBS.EEVEN OF CLUBS.
DEIGHT OF CLUBS.DNINE OF CLUBS.DTEN OF CLUBS.DJACK OF CLUBS.DKNIGHT OF CLUBS.DQUEEN OF CLUBS.
DKg OF CLUBS.DWHITE JOKER.DFOOL.DTRUMP-1.J2.J3.J4.J5.J6.J7.J8.J9.J10.K1.K2.K3.K4.K5.K6.K7.K8.K9.
J20.K1.@1F100.0DIGIT ZERO FULL STOP.BCOMMA.6ONE COMMA.6TWO COMMA.7HREE COMMA.6FOUR COMMA.
7IVE COMMA.6SIX COMMA.7EVEN COMMA.6EIGHT COMMA.6NINE COMMA.2NGBAT nD SANS-SERIF DIGIT ZERO.
8NEGATIVE nD SANS-SERIF DIGIT ZERO.0nD ZEROwSLASH.8ANTICLOCKWISE r.8DOLLARxwOVERLAID BACKSLASH.
0PARENTHESIZED LATIN cA.ZB.ZC.ZD.ZE.ZF.ZG.ZH.ZI.ZJ.ZK.ZL.ZM.ZN.ZO.ZP.ZQ.ZR.ZS.ZT.ZU.ZV.ZW.ZX.ZY.
ZZ.0ToTOISE SHELL BRACKETED LATIN cS.0nD ITALIC LATIN cC.Z R.8CD.8WZ.1OPYtp.0SQUARED LATIN cA.
TB.TC.TD.TE.TF.TG.TH.TI.TJ.TK.TL.TM.TN.TO.TP.TQ.TR.TS.TT.TU.TV.TW.TX.TY.TZ.8HV.8MV.8SD.9S.8PPV.
8WC.0NEGATIVE nD LATIN cA.ZER B.ZER C.ZER D.ZER E.ZER F.ZER G.ZER H.ZER I.ZER J.ZER K.ZER L.
ZER M.ZER N.ZER O.ZER P.ZER Q.ZER R.ZER S.ZER T.ZER U.ZER V.ZER W.ZER X.ZER Y.ZER Z.0RAISED MCx.
8Dx.8Rx.0nD CC.9wOVERLAID BACKSLASH.8HUMAN FIGURE.0NEGATIVE SQUARED LATIN cA.ZER B.ZER C.ZER D.
ZER E.ZER F.ZER G.ZER H.ZER I.ZER J.ZER K.ZER L.ZER M.ZER N.ZER O.ZER P.ZER Q.ZER R.ZER S.ZER T.
ZER U.ZER V.ZER W.ZER X.ZER Y.ZER Z.0CROSSED NEGATIVE SQUARED LATIN cP.0NEGATIVE SQUARED IC.HPA.
HSA.HAB.HWC.0SQUARE DJ.6D CL.9OOL.8FREE.8ID.8NEW.9G.8OK.8SOS.8UPwEXCLAMAy MARK.8VS.8THREE D.
8SECOND SCREEN.8TWO K.8FOUR K.8EIGHT K.8FIVE POINT ONE.8SEVEN POINT ONE.8TWENTY-TWO POINT TWO.
8SIXTY P.8ONE HUNDRED TWENTY P.8LATIN sD.8HC.9DR.9I-RES.8LOSSLESS.8SHV.8UHD.8VOD.0MASK WoKp.
@1F1E6.0REGIONAL INDICATop lA.XB.XC.XD.XE.XF.XG.XH.XI.XJ.XK.XL.XM.XN.XO.XP.XQ.XR.XS.XT.XU.XV.XW.
XX.XY.XZ.0SQUARE HIRAGANA HOKA.6D KATAKANA KOKO.HSA.@1F210.8CJK UNIFIED IDEOGRAPH-624B.U5B57.
V3CC.8KATAKANA DE.8CJK UNIFIED IDEOGRAPH-4E8C.U591A.U89E3.U5929.U4EA4.U6620.U7121.U6599.U524D.
VF8C.V18D.U65B0.U521D.U7D42.V51F.U8CA9.U58F0.V439.U6F14.V295.V355.U4E00.X9.U904A.U5DE6.U4E2D.
U53F3.U6307.U8D70.U6253.U7981.VA7A.U5408.U6E80.V709.X8.U7533.U5272.V5B6.U914D.@1F240.
0ToTOISE SHELL BRACKETED CJK UNIFIED IDEOGRAPH-672C.ZD IDEOGRAPH-4E09.ZD IDEOGRAPH-4E8C.
ZD IDEOGRAPH-5B89.ZD IDEOGRAPH-70B9.ZD IDEOGRAPH-6253.ZD IDEOGRAPH-76D7.ZD IDEOGRAPH-52DD.
ZD IDEOGRAPH-6557.@1F250.0nD IDEOGRAPH ADVANTAGE.JCCEPT.@1F260.0ROUNDEDp Fo FU.JLU.JSHOU.JXI.
JSHUANGXI.JCAI.@1F300.0CYCLONE.0FOGGY.0CLOSED UMBRELLA.0NIGHTwSTARS.0SUNRISE OVER MOUNTAINS.7.
0CITYSCAPE AT DUSK.0SUNSET OVER BUILDgS.0RAINBOW.0BRIDGE AT NIGHT.0WATER WAVE.0VOLCANO.
0MILKY WAY.0EARTH GLOBE EUROPE-AFRICA.CAMERICAS.DSIA-AUSTRALIA.0GLOBEwMERIDIANS.0NEW MOONp.
0WAXg CRESCENT MOONp.0FIRST QUARTER MOONp.0WAXg GIBBOUS MOONp.0FULL MOONp.0WANg GIBBOUS MOONp.
0LAST QUARTER MOONp.0WANg CRESCENT MOONp.0CRESCENT MOON.0NEW MOONwFACE.0FIRST QUARTER MOONwFACE.
0LAST QUARTER MOONwFACE.0FULL MOONwFACE.0SUNwFACE.0GLOWg STAR.0SHOOTg STAR.0THERMOMETER.
0BLACK DROPLET.0WHITE SUN.9wmCLOUD.ABEHIND CLOUD.MwRAIN.0CLOUDwRAIN.BSNOW.BLIGHTNg.BToNADO.0FOG.
0WIND BLOWg FACE.0HOT DOG.0TACO.0BURRITO.0CHESTNUT.0SEEDLg.0EVERGREEN TREE.0DECIDUOUS TREE.
0PALM TREE.0CACTUS.0HOT PEPPER.0TULIP.0CHERRY BLOSSOM.0ROSE.0HIBISCUS.0SUNFLOWER.0BLOSSOM.
0EAR OF MAIZE.7RICE.0HERB.0FOUR LEAF CLOVER.0MAPLE LEAF.0FALLEN LEAF.0LEAF FLUTTERg IN WIND.
0MUSHROOM.0TOMATO.0AUBERGINE.0GRAPES.0MELON.0WATERMELON.0TANGERINE.0LEMON.0BANANA.0PINEAPPLE.
0RED APPLE.0GREEN APPLE.0PEAR.3CH.0CHERRIES.0STRAWBERRY.0HAMBURGER.0SLICE OF PIZZA.
0MEAT ON BONE.0POULTRY LEG.0RICE CRACKER.5BALL.0COOKED RICE.1URRYaRICE.0STEAMg BOWL.1PAGHETTI.
0BREAD.0FRENCH FRIES.0ROASTED SWEET POTATO.0DANGO.0ODEN.0SUSHI.0FRIED SHRIMP.
1ISH CAKEwSWIRL DESIGN.0SOFT ICE CREAM.1HAVED ICE.0ICE CREAM.0DOUGHNUT.0COOKIE.1HOCOLATE BAR.
1ANDY.0LOLLIPOP.0CUSTARD.0HONEY POT.0SHoTCAKE.0BENTO BOX.0POT OF FOOD.0COOKg.0FoKaKNIFE.
0TEACUP WITHOUT HANDLE.0SAKE BOTTLEaCUP.0WINE GLASS.0COCKTAIL GLASS.0TROPICAL DRINK.0BEER MUG.
0CLINKg BEER MUGS.0BABY BOTTLE.0FoKaKNIFEwPLATE.0BOTTLEwPOPPg CoK.0POPCoN.0RIBBON.
0WRAPPED PRESENT.0BIRTHDAY CAKE.0JACK-O-LANTERN.0CHRISTMAS TREE.0FATHER CHRISTMAS.1IREWoKS.
8 SPARKLER.0BALLOON.0PARTY POPPER.0CONFETTI BALL.0TANABATA TREE.0CROSSED FLAGS.0PINE DECoAy.
0JAPANESE DOLLS.0CARP STREAMER.0WIND CHIME.0MOON VIEWg CEREMONY.0SCHOOL SATCHEL.0GRADUAy CAP.
0HEARTwTIP ON THE t.0BOUQUET OF FLOWERS.0MILITARY MEDAL.0REMINDER RIBBON.
0MUSICAL KEYBOARDwJACKS.0STUDIO MICROPHONE.0LEVEL SLIDER.0CONTROL KNOBS.
0BEAMED ASCENDg MUSICAL NOTES.7DESCENDg MUSICAL NOTES.0FILM FRAMES.0ADMISSION TICKETS.
0CAROUSEL HoSE.0FERRIS WHEEL.0ROLLER COASTER.0FISHg POLEaFISH.0MICROPHONE.1OVIE CAMERA.0CINEMA.
0HEADPHONE.0ARTIST PALETTE.0TOP HAT.0CIRCUS TENT.0TICKET.0CLAPPER BOARD.0PERFoMg ARTS.
0VIDEO GAME.0DIRECT HIT.0SLOT MACHINE.0BILLIARDS.0GAME DIE.0BOWLg.0FLOWER PLAYg CARDS.
0MUSICAL NOTE.2LTIPLE MUSICAL NOTES.0SAXOPHONE.0GUITAR.0MUSICAL KEYBOARD.0TRUMPET.0VIOLIN.
0MUSICAL SCoE.0RUNNg SHIRTwSASH.0TENNIS RACQUETaBALL.0SKIaSKI BOOT.0BASKETBALLaHOOP.
0CHEQUERED FLAG.0SNOWBOARDER.0RUNNER.0SURFER.1PoTS MEDAL.0TROPHY.0HoSE RACg.0AMERICAN FOOTBALL.
0RUGBY FOOTBALL.0SWIMMER.0WEIGHT LIFTER.0GOLFER.0RACg MOToCYCLE.7CAR.0CRICKET BATaBALL.
0VOLLEYBALL.0FIELD HOCKEY STICKaBALL.0ICE HOCKEY STICKaPUCK.0TABLE TENNIS PADDLEaBALL.
0SNOW CAPPED MOUNTAIN.0CAMPg.0BEACHwUMBRELLA.1UILDg CONSTRUCy.0HOUSE BUILDgS.0CITYSCAPE.
0DERELICT HOUSE BUILDg.0CLASSICAL BUILDg.0DESERT.6 ISLAND.0NAyAL PARK.0STADIUM.0HOUSE BUILDg.
6WITH GARDEN.0OFFICE BUILDg.0JAPANESE POST OFFICE.0EUROPEAN POST OFFICE.0HOSPITAL.0BANK.
0AUTOMATED TELLER MACHINE.0HOTEL.0LOVE HOTEL.0CONVENIENCE SToE.0SCHOOL.0DEPARTMENT SToE.0FACToY.
0IZAKAYA LANTERN.0JAPANESE CASTLE.0EUROPEAN CASTLE.0WHITE PENNANT.0BLACK PENNANT.
0WAVg WHITE FLAG.7BLACK FLAG.0ROSETTE.0BLACK ROSETTE.0LABEL.0BADMINTON RACQUETaSHUTTLECOCK.
1OWar.0AMPHoA.0EMOJI MODIFIER FITZPATRICK TYPE-1-2.W3.W4.W5.W6.0RAT.0MOUSE.0OX.0WATER BUFFALO.
0COW.0TIGER.0LEOPARD.0RABBIT.0CAT.0DRAGON.0CROCODILE.0WHALE.0SNAIL.3KE.0HoSE.0RAM.0GOAT.0SHEEP.
0MONKEY.0ROOSTER.0CHICKEN.0DOG.0PIG.0BOAR.0ELEPHANT.0OCTOPUS.0SPIRAL SHELL.0BUG.0ANT.0HONEYBEE.
0LADY BEETLE.0FISH.0TROPICAL FISH.0BLOWFISH.0TURTLE.0HATCHg CHICK.0BABY CHICK.
0FRONT-FACg BABY CHICK.0BIRD.0PENGUIN.0KOALA.0POODLE.0DROMEDARY CAMEL.0BACTRIAN CAMEL.0DOLPHIN.
0MOUSE FACE.0COW FACE.0TIGER FACE.0RABBIT FACE.0CAT FACE.0DRAGON FACE.0SPOUTg WHALE.0HoSE FACE.
0MONKEY FACE.0DOG FACE.0PIG FACE.0FROG FACE.0HAMSTER FACE.0WOLF FACE.0BEAR FACE.0PANDA FACE.
1IG NOSE.1AW PRINTS.0CHIPMUNK.0EYES.3.1AR.0NOSE.0MOUTH.0TONGUE.0WHITE UP zBACKHAND INDEX.
6DOWN zBACKHAND INDEX.6t zBACKHAND INDEX.6h zBACKHAND INDEX.0FISTED HANDx.0WAVg HANDx.0OK HANDx.
0THUMBS UPx.7DOWNx.0CLAPPg HANDSx.0OPEN HANDSx.0CROWN.0WOMANS HAT.0EYEGLASSES.0NECKTIE.0T-SHIRT.
0JEANS.0DRESS.0KIMONO.0BIKINI.0WOMANS CLOTHES.0PURSE.0HANDBAG.0POUCH.0MANS SHOE.0ATHLETIC SHOE.
0HIGH-HEELED SHOE.0WOMANS SANDAL.7BOOTS.0FOOTPRINTS.0BUST IN SILHOUETTE.4S IN SILHOUETTE.1OY.
0GIRL.0MAN.0WOMAN.0FAMILY.0MANaWOMAN HOLDg HANDS.0TWO MEN HOLDg HANDS.4WOMEN HOLDg HANDS.
0POLICE OFFICER.0WOMANwBUNNY EARS.0BRIDEwVEIL.0PERSONwBLOND HAIR.0MANwGUA PI MAO.9TURBAN.
0OLDER MAN.6WOMAN.0BABY.0CONSTRUCy WoKER.0PRINCESS.0JAPANESE OGRE.9GOBLIN.0GHOST.0BABY ANGEL.
0EXTRATERRESTRIAL ALIEN.0ALIEN MONSTER.0IMP.0SKULL.0INFoMAy DESK PERSON.0GUARDSMAN.0DANCER.
0LIPSTICK.0NAIL POLISH.0FACE MASSAGE.0HAIRCUT.0BARBER POLE.0SYRgE.0PILL.0KISS MARK.0LOVE LETTER.
0Rg.0GEM STONE.0KISS.0BOUQUET.0COUPLEwHEART.0WEDDg.0BEATg HEART.1ROKEN HEART.0TWO HEARTS.
0SPARKLg HEART.0GROWg HEART.0HEARTwr.0BLUE HEART.0GREEN HEART.0YELLOW HEART.0PURPLE HEART.
0HEARTwRIBBON.0REVOLVg HEARTS.0HEART DECoAy.0DIAMOND SHAPEwA DOT INSIDE.0ELECTRIC LIGHT BULB.
0ANGERp.0BOMB.0SLEEPgp.0COLLISIONp.0SPLASHg SWEATp.0DROPLET.1ASHp.0PILE OF POO.0FLEXED BICEPS.
0DIZZYp.0SPEECH BALLOON.0THOUGHT BALLOON.0WHITE FLOWER.0HUNDRED POINTSp.0MONEY BAG.
0CURRENCY EXCHANGE.0HEAVY DOLLARx.0CREDIT CARD.0BANKNOTEwYENx.EDOLLARx.EEUROx.EPOUNDx.
0MONEYwWgS.0CHARTwUPuTRENDaYENx.0SEAT.0PERSONAL COMPUTER.0BRIEFCASE.0MINIDISC.0FLOPPY DISK.
0OPTICAL DISC.0DVD.0FILE FOLDER.0OPEN FILE FOLDER.0PAGEwCURL.5FACg UP.0CALENDAR.
0TEAR-OFF CALENDAR.0CARD INDEX.1HARTwUPuTREND.BDOWNuTREND.0BAR CHART.0CLIPBOARD.0PUSHPIN.
0ROUND PUSHPIN.0PAPERCLIP.0STRAIGHT RULER.0TRIANGULAR RULER.0BOOKMARK TABS.0LEDGER.0NOTEBOOK.
8wDECoATIVE COVER.0CLOSED BOOK.0OPEN BOOK.0GREEN BOOK.0BLUE BOOK.0oANGE BOOK.0BOOKS.0NAME BADGE.
0SCROLL.0MEMO.0TELEPHONE RECEIVER.0PAGER.0FAX MACHINE.0SATELLITE ANTENNA.
0PUBLIC ADDRESS LOUDSPEAKER.0CHEERg MEGAPHONE.0OUTBOX TRAY.0INBOX TRAY.0PACKAGE.0E-MAILp.
0INCOMg ENVELOPE.0ENVELOPEwDOWNure.0CLOSED MAILBOXwLOWERED FLAG.KRAISED FLAG.
0OPEN MAILBOXwRAISED FLAG.ILOWERED FLAG.0POSTBOX.4AL HoN.0NEWSPAPER.0MOBILE PHONE.Cwhur AT t.
0VIBRAy MODE.0MOBILE PHONE OFF.0NO MOBILE PHONES.0ANTENNAwBARS.0CAMERA.6wFLASH.0VIDEO CAMERA.
0TELEVISION.0RADIO.0VIDEOCASSETTE.0FILM PROJECTo.0PoTABLE STEREO.1RAYER BEADS.0TWISTED hurS.
0CLOCKWISE huAND tuOPEN n rS.ZOPEN n rSwnD ONE OVERLAY.ADOWNuAND UPuOPEN n rS.
0ANTICLOCKWISE DOWNuAND UPuOPEN n rS.0LOW BhNESSp.0HIGH BhNESSp.0SPEAKERwCANCELLAy STROKE.7.
7wONE SOUND WAVE.DTHREE SOUND WAVES.0BATTERY.0ELECTRIC PLUG.0t-zMAGNIFYg GLASS.
0h-zMAGNIFYg GLASS.0LOCKwINK PEN.0CLOSED LOCKwKEY.0KEY.0LOCK.0OPEN LOCK.0BELL.
4wCANCELLAy STROKE.1OOKMARK.0LINKp.0RADIO BUTTON.0BACKwture.0ENDwture.0ONwEXCLAMAy MARKwt h re.
0SOONwhure.0TOPwUPure.0NO ONE UNDER EIGHTEENp.0KEYCAP TEN.0INPUTp Fo LATIN CAPITAL LETTERS.
NmLETTERS.HNUMBERS.HSYMBOLS.HLATIN LETTERS.0FIRE.0ELECTRIC ToCH.0WRENCH.0HAMMER.0NUTaBOLT.
0HOCHO.0PISTOL.0MICROSCOPE.0TELESCOPE.0CRYSTAL BALL.0SIX POINTED STARwMIDDLE DOT.
0JAPANESEp Fo BEGINNER.0TRIDENT EMBLEM.0BLACK SQUARE BUTTON.0WHITE SQUARE BUTTON.0LARGE RED n.
6BLUE n.6oANGE DIAMOND.6BLUE DIAMOND.0moANGE DIAMOND.6BLUE DIAMOND.0UP-zRED k.0DOWN-zRED k.
0UP-zmRED k.0DOWN-zmRED k.0LOWER h SHADOWED WHITE n.0UPPER h SHADOWED WHITE n.0nD CROSS POMMEE.
1ROSS POMMEEwHALF-nb.C.0NOTCHED t SEMInwTHREE DOTS.8h SEMInwTHREE DOTS.0SYMBOL Fo MARKS CHAPTER.
0WHITE LATIN CROSS.0HEAVY LATIN CROSS.0CELTIC CROSS.0OMp.0DOVE OF PEACE.0KAABA.0MOSQUE.
0SYNAGOGUE.0MENoAHwNINE BRANCHES.0BOWL OF HYGIEIA.0CLOCK FACE ONE OCLOCK.BTWO OCLOCK.
CHREE OCLOCK.BFOUR OCLOCK.CIVE OCLOCK.BSIX OCLOCK.CEVEN OCLOCK.BEIGHT OCLOCK.BNINE OCLOCK.
BTEN OCLOCK.BELEVEN OCLOCK.BTWELVE OCLOCK.BONE-THIRTY.BTWO-THIRTY.CHREE-THIRTY.BFOUR-THIRTY.
CIVE-THIRTY.BSIX-THIRTY.CEVEN-THIRTY.BEIGHT-THIRTY.BNINE-THIRTY.BTEN-THIRTY.BELEVEN-THIRTY.
BTWELVE-THIRTY.0h SPEAKER.DwONE SOUND WAVE.JTHREE SOUND WAVES.0BULLHoN.8wSOUND WAVES.0Rgg BELL.
0BOOK.0CANDLE.0MANTELPIECE CLOCK.0BLACK SKULLaCROSSBONES.0NO PIRACY.0HOLE.
0MAN IN BUSINESS SUIT LEVITATg.0SLEUTH o SPY.0DARK SUNGLASSES.0SPIDER.6 WEB.0JOYSTICK.
0MAN DANCg.0t HAND TELEPHONE RECEIVER.0TELEPHONE RECEIVERwPAGE.0h HAND TELEPHONE RECEIVER.
0WHITE TOUCHTONE TELEPHONE.0BLACK TOUCHTONE TELEPHONE.0TELEPHONE ON TOP OF MODEM.
0CLAMSHELL MOBILE PHONE.0BACK OF ENVELOPE.0STAMPED ENVELOPE.0ENVELOPEwLIGHTNg.0FLYg ENVELOPE.
0PEN OVER STAMPED ENVELOPE.0LINKED PAPERCLIPS.0BLACK PUSHPIN.0LOWER t PENCIL.BBALLPOINT PEN.
BFOUNTAIN PEN.BPAINTBRUSH.BCRAYON.1EFT WRITg HAND.0TURNED OK HANDx.0RAISED HANDwFgERS SPLAYED.
1EVERSED RAISED HANDwFgERS SPLAYED.9THUMBS UPx.GDOWNx.9VICToY HAND.9HANDwMIDDLE FgER EXTENDED.
1AISED HANDwPART BETWEEN MIDDLEaRg FgERS.0WHITE DOWN zt HAND INDEX.0SIDEWAYS WHITE t zINDEX.
Fh zINDEX.9BLACK t zINDEX.Fh zINDEX.0BLACK t zBACKHAND INDEX.6h zBACKHAND INDEX.
0SIDEWAYS WHITE UP zINDEX.FDOWN zINDEX.9BLACK UP zINDEX.FDOWN zINDEX.0BLACK UP zBACKHAND INDEX.
6DOWN zBACKHAND INDEX.6HEART.0DESKTOP COMPUTER.0KEYBOARDaMOUSE.0THREE NETWoKED COMPUTERS.
0PRINTER.1OCKET CALCULATo.0BLACK HARD SHELL FLOPPY DISK.0WHITE HARD SHELL FLOPPY DISK.
0SOFT SHELL FLOPPY DISK.0TAPE CARTRIDGE.0WIRED KEYBOARD.0ONE BUTTON MOUSE.0TWO BUTTON MOUSE.
1HREE BUTTON MOUSE.1RACKBALL.0OLD PERSONAL COMPUTER.0HARD DISK.0SCREEN.0PRINTER ICON.0FAX ICON.
0OPTICAL DISC ICON.0DOCUMENTwTEXT.IaPICTURE.EPICTURE.0FRAMEwPICTURE.BTILES.BAN X.0BLACK FOLDER.
0FOLDER.0OPEN FOLDER.0CARD INDEX DIVIDERS.5FILE BOX.0FILE CABINET.0EMPTY NOTE.A PAGE.DD.0NOTE.
4 PAGE.7D.0EMPTY DOCUMENT.6PAGE.AS.0DOCUMENT.0PAGE.4S.0WASTEBASKET.0SPIRAL NOTE PAD.
7CALENDAR PAD.0DESKTOP WINDOW.0MINIMIZE.1AXIMIZE.0OVERLAP.0CLOCKWISE hat SEMIn rS.1ANCELLAy X.
0INCREASE FONT SIZEp.0DECREASE FONT SIZEp.0COMPRESSION.0OLD KEY.0ROLLED-UP NEWSPAPER.
0PAGEwnD TEXT.0STOCK CHART.0DAGGER KNIFE.0LIPS.0SPEAKg HEAD IN SILHOUETTE.0THREE RAYSe.BBELOW.
Bt.Bh.0t SPEECH BUBBLE.0h SPEECH BUBBLE.0TWO SPEECH BUBBLES.1HREE SPEECH BUBBLES.
0t THOUGHT BUBBLE.0h THOUGHT BUBBLE.0t ANGER BUBBLE.0h ANGER BUBBLE.0MOOD BUBBLE.
0LIGHTNg MOOD BUBBLE.E.0BALLOT BOXwBALLOT.7SCRIPT X.7BOXwSCRIPT X.9LD SCRIPT X.9XwBOLD SCRIPT X.
0LIGHT CHECK MARK.0BALLOT BOXwBOLD CHECK.0WoLD MAP.0MOUNT FUJI.0TOKYO TOWER.0STATUE OF LIBERTY.
1ILHOUETTE OF JAPAN.0MOYAI.0GRINNg FACE.DwSMILg EYES.0FACEwTEARS OF JOY.0SMILg FACEwOPEN MOUTH.
SaSMILg EYES.XCOLD SWEAT.XTIGHTLY-CLOSED EYES.IHALO.JoNS.0WINKg FACE.0SMILg FACEwSMILg EYES.
0FACE SAVOURg DELICIOUS FOOD.0RELIEVED FACE.0SMILg FACEwHEART-SHAPED EYES.ISUNGLASSES.3RKg FACE.
0NEUTRAL FACE.0EXPRESSIONLESS FACE.0UNAMUSED FACE.0FACEwCOLD SWEAT.0PENSIVE FACE.0CONFUSED FACE.
4OUNDED FACE.0KISSg FACE.0FACE THROWg A KISS.0KISSg FACEwSMILg EYES.ICLOSED EYES.
0FACEwSTUCK-OUT TONGUE.QaWINKg EYE.VTIGHTLY-CLOSED EYES.0DISAPPOINTED FACE.0WoRIED FACE.
0ANGRY FACE.0POUTg FACE.0CRYg FACE.0PERSEVERg FACE.0FACEwLOOK OF TRIUMPH.
0DISAPPOINTED BUT RELIEVED FACE.0FROWNg FACEwOPEN MOUTH.0ANGUISHED FACE.0FEARFUL FACE.
0WEARY FACE.0SLEEPY FACE.0TIRED FACE.0GRIMACg FACE.0LOUDLY CRYg FACE.0FACEwOPEN MOUTH.
0HUSHED FACE.0FACEwOPEN MOUTHaCOLD SWEAT.5SCREAMg IN FEAR.0ASTONISHED FACE.0FLUSHED FACE.
0SLEEPg FACE.0DIZZY FACE.0FACE WITHOUT MOUTH.9 MEDICAL MASK.0GRINNg CAT FACEwSMILg EYES.
0CAT FACEwTEARS OF JOY.0SMILg CAT FACEwOPEN MOUTH.MHEART-SHAPED EYES.0CAT FACEwWRY SMILE.
0KISSg CAT FACEwCLOSED EYES.0POUTg CAT FACE.0CRYg CAT FACE.0WEARY CAT FACE.
0SLIGHTLY FROWNg FACE.9SMILg FACE.0UPSIDE-DOWN FACE.0FACEwROLLg EYES.ANO GOOD GESTURE.
AOK GESTURE.0PERSON BOWg DEEPLY.0SEE-NO-EVIL MONKEY.0HEAR-NO-EVIL MONKEY.0SPEAK-NO-EVIL MONKEY.
0HAPPY PERSON RAISg ONE HAND.0PERSON RAISg BOTH HANDS IN CELEBRAy.7FROWNg.7WITH POUTg FACE.
CFOLDED HANDS.0NoTH WEST zLEAF.0SOUTH WEST zLEAF.0NoTH EAST zLEAF.0SOUTH EAST zLEAF.
0TURNED NoTH WEST zLEAF.7SOUTH WEST zLEAF.7NoTH EAST zLEAF.7SOUTH EAST zLEAF.
0NoTH WEST zVINE LEAF.0SOUTH WEST zVINE LEAF.0NoTH EAST zVINE LEAF.0SOUTH EAST zVINE LEAF.
0HEAVY NoTH WEST zVINE LEAF.6SOUTH WEST zVINE LEAF.6NoTH EAST zVINE LEAF.6SOUTH EAST zVINE LEAF.
0NoTH WEST zBUD.0SOUTH WEST zBUD.0NoTH EAST zBUD.0SOUTH EAST zBUD.0HEAVY NoTH WEST zBUD.
6SOUTH WEST zBUD.6NoTH EAST zBUD.6SOUTH EAST zBUD.1OLLOW QUILT SQUARE oNAMENT.S IN BLACK SQUARE.
0SOLID QUILT SQUARE oNAMENT.R IN BLACK SQUARE.0tuROCKET.0UPuROCKET.0huROCKET.0DOWNuROCKET.
0SCRIPT LIGATURE ET oNAMENT.0HEAVY SCRIPT LIGATURE ET oNAMENT.0LIGATURE OPEN ET oNAMENT.
0HEAVY LIGATURE OPEN ET oNAMENT.6AMPERSAND oNAMENT.0SWASH AMPERSAND oNAMENT.
1ANS-SERIF HEAVY dTURNED COMMA QUOTAy MARK oNAMENT.OCOMMA QUOTAy MARK oNAMENT.
HLOW dCOMMA QUOTAy MARK oNAMENT.0HEAVY INTERROBANG oNAMENT.0SANS-SERIF INTERROBANG oNAMENT.
0HEAVY SANS-SERIF INTERROBANG oNAMENT.0VERY HEAVY SOLIDUS.BREVERSE SOLIDUS.0CHECKER BOARD.
0REVERSE CHECKER BOARD.1OCKET.0HELICOPTER.0STEAM LOCOMOTIVE.0RAILWAY CAR.0HIGH-SPEED TRAIN.
GwBULLET NOSE.0TRAIN.0METRO.0LIGHT RAIL.0STAy.0TRAM.4 CAR.0BUS.0ONCOMg BUS.0TROLLEYBUS.
0BUS STOP.0MINIBUS.0AMBULANCE.0FIRE ENGINE.0POLICE CAR.0ONCOMg POLICE CAR.0TAXI.0ONCOMg TAXI.
0AUTOMOBILE.0ONCOMg AUTOMOBILE.0RECREAyAL VEHICLE.0DELIVERY TRUCK.0ARTICULATED LoRY.0TRACTo.
0MONoAIL.2UNTAIN RAILWAY.0SUSPENSION RAILWAY.0MOUNTAIN CABLEWAY.0AERIAL TRAMWAY.0SHIP.0ROWBOAT.
0SPEEDBOAT.0HoIZONTAL TRAFFIC LIGHT.0qTRAFFIC LIGHT.0CONSTRUCyx.0POLICE CARS REVOLVg LIGHT.
0TRIANGULAR FLAG ON POST.0DOo.0NO ENTRYx.0SMOKgp.0NO SMOKgp.0PUT LITTER IN ITS PLACEp.
0DO NOT LITTERp.0POTABLE WATERp.0NON-POTABLE WATERp.0BICYCLE.0NO BICYCLES.0BICYCLIST.
0MOUNTAIN BICYCLIST.0PEDESTRIAN.0NO PEDESTRIANS.0CHILDREN CROSSg.0MENSp.0WOMENSp.0RESTROOM.
0BABYp.0TOILET.0WATER CLOSET.0SHOWER.0BATH.4TUB.0PASSPoT CONTROL.0CUSTOMS.0BAGGAGE CLAIM.
0t LUGGAGE.0kwROUNDED CoNERS.0PROHIBITEDx.0nD INFoMAy SOURCE.0BOYSp.0GIRLSp.0COUCHaLAMP.
0SLEEPg ACCOMMODAy.1HOPPg BAGS.0BELLHOP BELL.2D.0PLACE OF WoSHIP.0OCTAGONALx.0SHOPPg TROLLEY.
1TUPA.0PAGODA.0HINDU TEMPLE.1UT.0ELEVATo.@1F6DD.0PLAYGROUND SLIDE.0WHEEL.0Rg BUOY.
0HAMMERaWRENCH.0SHIELD.0OIL DRUM.0MOToWAY.0RAILWAY TRACK.0MOTo BOAT.0UP-zMILITARY AIRPLANE.
CAIRPLANE.CmAIRPLANE.0mAIRPLANE.0NoTHEAST-zAIRPLANE.0AIRPLANE DEPARTURE.9ARRIVg.@1F6F0.
0SATELLITE.0ONCOMg FIRE ENGINE.0DIESEL LOCOMOTIVE.0PASSENGER SHIP.0SCOOTER.0MOTo SCOOTER.0CANOE.
0SLED.0FLYg SAUCER.0SKATEBOARD.0AUTO RICKSHAW.0PICKUP TRUCK.0ROLLER SKATE.@1F700.
0ALCHEMICALp Fo QUINTESSENCE.MAIR.MFIRE.MEARTH.MWATER.MAQUAFoTIS.Q REGIA.W-2.RVITAE.W-2.
MVINEGAR.T-2.U3.MSULFUR.MPHILOSOPHERS SULFUR.MBLACK SULFUR.MMERCURY SUBLIMATE.ZMATE-2.ZMATE-3.
MCINNABAR.MSALT.MNITRE.MVITRIOL.T-2.MROCK SALT.V-2.MGOLD.MSILVER.MIRON oE.U-2.MCROCUS OF IRON.
MREGULUS OF IRON.MCOPPER oE.MIRON-COPPER oE.MSUBLIMATE OF COPPER.MCROCUS OF COPPER.ZPER-2.
NOPPER ANTIMONIATE.MSALT OF COPPER ANTIMONIATE.NUBLIMATE OF SALT OF COPPER.MVERDIGRIS.MTIN oE.
MLEAD oE.MANTIMONY oE.MSUBLIMATE OF ANTIMONY.NALT OF ANTIMONY.NUBLIMATE OF SALT OF ANTIMONY.
MVINEGAR OF ANTIMONY.MREGULUS OF ANTIMONY.ZTIMONY-2.T.T-2.U3.U4.MALKALI.S-2.MMARCASITE.
MSAL-AMMONIAC.MARSENIC.MREALGAR.T-2.MAURIPIGMENT.MBISMUTH oE.MTARTAR.S-2.MQUICK LIME.MBoAX.R-2.
S3.MALUM.MOIL.MSPIRIT.MTINCTURE.MGUM.MWAX.MPOWDER.MCALX.MTUTTY.MCAPUT MoTUUM.MSCEPTER OF JOVE.
MCADUCEUS.MTRIDENT.MSTARRED TRIDENT.MLODESTONE.MSOAP.MURINE.MHoSE DUNG.MASHES.MPOT ASHES.MBRICK.
MPOWDERED BRICK.MAMALGAM.MSTRATUM SUPER STRATUM.Z STRATUM-2.NUBLIMAy.MPRECIPITATE.MDISTILL.
PSOLVE.U-2.MPURIFY.OTREFACy.MCRUCIBLE.U-2.V3.V4.V5.MALEMBIC.MBATH OF MARY.UVAPOURS.MREToT.MHOUR.
MNIGHT.MDAY-NIGHT.MMONTH.MHALF DRAM.ROUNCE.@1F780.0BLACK t-zISOSCELES h k.6UP-zISOSCELES h k.
6h-zISOSCELES h k.6DOWN-zISOSCELES h k.6SLIGHTLY mn.0MEDIUM BOLD WHITE n.0BOLD WHITE n.
0HEAVY WHITE n.0VERY HEAVY WHITE n.0EXTREMELY HEAVY WHITE n.0WHITE n CONTAINg BLACK mn.
0ROUND TARGET.0BLACK TINY SQUARE.6SLIGHTLY mSQUARE.0LIGHT WHITE SQUARE.0MEDIUM WHITE SQUARE.
0BOLD WHITE SQUARE.0HEAVY WHITE SQUARE.0VERY HEAVY WHITE SQUARE.0EXTREMELY HEAVY WHITE SQUARE.
0WHITE SQUARE CONTAINg BLACK VERY mSQUARE.UMEDIUM SQUARE.0SQUARE TARGET.0BLACK TINY DIAMOND.
6VERY mDIAMOND.6MEDIUM mDIAMOND.0WHITE DIAMOND CONTAINg BLACK VERY mDIAMOND.VMEDIUM DIAMOND.
0DIAMOND TARGET.0BLACK TINY LOZENGE.6VERY mLOZENGE.6MEDIUM mLOZENGE.
0WHITE LOZENGE CONTAINg BLACK mLOZENGE.0THIN GREEK CROSS.0LIGHT GREEK CROSS.0MEDIUM GREEK CROSS.
0BOLD GREEK CROSS.0VERY BOLD GREEK CROSS.5HEAVY GREEK CROSS.0EXTREMELY HEAVY GREEK CROSS.
0THIN SALTIRE.0LIGHT SALTIRE.0MEDIUM SALTIRE.0BOLD SALTIRE.0HEAVY SALTIRE.0VERY HEAVY SALTIRE.
0EXTREMELY HEAVY SALTIRE.0LIGHT FIVE SPOKED ASTERISK.0MEDIUM FIVE SPOKED ASTERISK.
0BOLD FIVE SPOKED ASTERISK.0HEAVY FIVE SPOKED ASTERISK.0VERY HEAVY FIVE SPOKED ASTERISK.
0EXTREMELY HEAVY FIVE SPOKED ASTERISK.0LIGHT SIX SPOKED ASTERISK.0MEDIUM SIX SPOKED ASTERISK.
0BOLD SIX SPOKED ASTERISK.0HEAVY SIX SPOKED ASTERISK.0VERY HEAVY SIX SPOKED ASTERISK.
0EXTREMELY HEAVY SIX SPOKED ASTERISK.0LIGHT EIGHT SPOKED ASTERISK.0MEDIUM EIGHT SPOKED ASTERISK.
0BOLD EIGHT SPOKED ASTERISK.0HEAVY EIGHT SPOKED ASTERISK.0VERY HEAVY EIGHT SPOKED ASTERISK.
0LIGHT THREE POINTED BLACK STAR.0MEDIUM THREE POINTED BLACK STAR.0THREE POINTED BLACK STAR.
0MEDIUM THREE POINTED PINWHEEL STAR.0LIGHT FOUR POINTED BLACK STAR.
0MEDIUM FOUR POINTED BLACK STAR.0FOUR POINTED BLACK STAR.0MEDIUM FOUR POINTED PINWHEEL STAR.
0REVERSE LIGHT FOUR POINTED PINWHEEL STAR.0LIGHT FIVE POINTED BLACK STAR.
0HEAVY FIVE POINTED BLACK STAR.0MEDIUM SIX POINTED BLACK STAR.0HEAVY SIX POINTED BLACK STAR.
0SIX POINTED PINWHEEL STAR.0MEDIUM EIGHT POINTED BLACK STAR.0HEAVY EIGHT POINTED BLACK STAR.
0VERY HEAVY EIGHT POINTED BLACK STAR.0HEAVY EIGHT POINTED PINWHEEL STAR.
0LIGHT TWELVE POINTED BLACK STAR.0HEAVY TWELVE POINTED BLACK STAR.LPINWHEEL STAR.0nD k.
0NEGATIVE nD k.0nD SQUARE.0NEGATIVE nD SQUARE.@1F7E0.0LARGE oANGE n.6YELLOW n.6GREEN n.
6PURPLE n.6BROWN n.6RED SQUARE.6BLUE SQUARE.6oANGE SQUARE.6YELLOW SQUARE.6GREEN SQUARE.
6PURPLE SQUARE.6BROWN SQUARE.@1F7F0.0HEAVY EQUALSx.@1F800.0turwmk rHEAD.0UPurwmk rHEAD.
0hurwmk rHEAD.0DOWNurwmk rHEAD.0turwMEDIUM k rHEAD.0UPurwMEDIUM k rHEAD.0hurwMEDIUM k rHEAD.
0DOWNurwMEDIUM k rHEAD.0turwLARGE k rHEAD.0UPurwLARGE k rHEAD.0hurwLARGE k rHEAD.
0DOWNurwLARGE k rHEAD.@1F810.0turwmEQUILATERAL rHEAD.0UPurwmEQUILATERAL rHEAD.
0hurwmEQUILATERAL rHEAD.0DOWNurwmEQUILATERAL rHEAD.0turwEQUILATERAL rHEAD.
0UPurwEQUILATERAL rHEAD.0hurwEQUILATERAL rHEAD.0DOWNurwEQUILATERAL rHEAD.
0HEAVY turwEQUILATERAL rHEAD.6UPurwEQUILATERAL rHEAD.6hurwEQUILATERAL rHEAD.
6DOWNurwEQUILATERAL rHEAD.6turwLARGE EQUILATERAL rHEAD.6UPurwLARGE EQUILATERAL rHEAD.
6hurwLARGE EQUILATERAL rHEAD.6DOWNurwLARGE EQUILATERAL rHEAD.0tuk-HEADED rwNr SHAFT.
0UPuk-HEADED rwNr SHAFT.0huk-HEADED rwNr SHAFT.0DOWNuk-HEADED rwNr SHAFT.
0tuk-HEADED rwMEDIUM SHAFT.0UPuk-HEADED rwMEDIUM SHAFT.0huk-HEADED rwMEDIUM SHAFT.
0DOWNuk-HEADED rwMEDIUM SHAFT.0tuk-HEADED rwBOLD SHAFT.0UPuk-HEADED rwBOLD SHAFT.
0huk-HEADED rwBOLD SHAFT.0DOWNuk-HEADED rwBOLD SHAFT.0tuk-HEADED rwHEAVY SHAFT.
0UPuk-HEADED rwHEAVY SHAFT.0huk-HEADED rwHEAVY SHAFT.0DOWNuk-HEADED rwHEAVY SHAFT.
0tuk-HEADED rwVERY HEAVY SHAFT.0UPuk-HEADED rwVERY HEAVY SHAFT.0huk-HEADED rwVERY HEAVY SHAFT.
0DOWNuk-HEADED rwVERY HEAVY SHAFT.0tuFgER-POST r.0UPuFgER-POST r.0huFgER-POST r.
0DOWNuFgER-POST r.0tuSQUARED r.0UPuSQUARED r.0huSQUARED r.0DOWNuSQUARED r.0tuCOMPRESSED r.
0UPuCOMPRESSED r.0huCOMPRESSED r.0DOWNuCOMPRESSED r.0tuHEAVY COMPRESSED r.
0UPuHEAVY COMPRESSED r.0huHEAVY COMPRESSED r.0DOWNuHEAVY COMPRESSED r.0tuHEAVY r.0UPuHEAVY r.
0huHEAVY r.0DOWNuHEAVY r.@1F850.0tuSANS-SERIF r.0UPuSANS-SERIF r.0huSANS-SERIF r.
0DOWNuSANS-SERIF r.0NoTH WEST SANS-SERIF r.6EAST SANS-SERIF r.0SOUTH EAST SANS-SERIF r.
6WEST SANS-SERIF r.0t h SANS-SERIF r.0UP DOWN SANS-SERIF r.@1F860.0WIDE-HEADED tuLIGHT BARB r.
CUPuLIGHT BARB r.ChuLIGHT BARB r.CDOWNuLIGHT BARB r.CNoTH WEST LIGHT BARB r.IEAST LIGHT BARB r.
CSOUTH EAST LIGHT BARB r.IWEST LIGHT BARB r.CtuBARB r.CUPuBARB r.ChuBARB r.CDOWNuBARB r.
CNoTH WEST BARB r.IEAST BARB r.CSOUTH EAST BARB r.IWEST BARB r.CtuMEDIUM BARB r.
CUPuMEDIUM BARB r.ChuMEDIUM BARB r.CDOWNuMEDIUM BARB r.CNoTH WEST MEDIUM BARB r.
IEAST MEDIUM BARB r.CSOUTH EAST MEDIUM BARB r.IWEST MEDIUM BARB r.CtuHEAVY BARB r.
CUPuHEAVY BARB r.ChuHEAVY BARB r.CDOWNuHEAVY BARB r.CNoTH WEST HEAVY BARB r.IEAST HEAVY BARB r.
CSOUTH EAST HEAVY BARB r.IWEST HEAVY BARB r.CtuVERY HEAVY BARB r.CUPuVERY HEAVY BARB r.
ChuVERY HEAVY BARB r.CDOWNuVERY HEAVY BARB r.CNoTH WEST VERY HEAVY BARB r.
IEAST VERY HEAVY BARB r.CSOUTH EAST VERY HEAVY BARB r.IWEST VERY HEAVY BARB r.@1F890.0tuk rHEAD.
0UPuk rHEAD.0huk rHEAD.0DOWNuk rHEAD.0tuWHITE r WITHIN k rHEAD.0UPuWHITE r WITHIN k rHEAD.
0huWHITE r WITHIN k rHEAD.0DOWNuWHITE r WITHIN k rHEAD.0turwNOTCHED TAIL.0UPurwNOTCHED TAIL.
0hurwNOTCHED TAIL.0DOWNurwNOTCHED TAIL.0HEAVY r SHAFT WIDTH ONE.OTWO THIRDS.OONE HALF.STHIRD.
0tuBOTTOM-SHADED WHITE r.0huBOTTOM SHADED WHITE r.0tuTOP SHADED WHITE r.0huTOP SHADED WHITE r.
0tut-SHADED WHITE r.0huh-SHADED WHITE r.0tuh-SHADED WHITE r.0hut-SHADED WHITE r.
0tuBACK-TILTED SHADOWED WHITE r.0huBACK-TILTED SHADOWED WHITE r.
0tuFRONT-TILTED SHADOWED WHITE r.0huFRONT-TILTED SHADOWED WHITE r.0WHITE r SHAFT WIDTH ONE.
OTWO THIRDS.@1F8B0.0r zUPuTHEN NoTH WEST.FhuTHEN CURVg SOUTH WEST.@1F900.
0nD CROSS FoMEEwFOUR DOTS.QTWO DOTS.K.0t HALF nwFOUR DOTS.MTHREE DOTS.NWO DOTS.MDOT.G.
0DOWNWARD FACg HOOK.GNOTCHED HOOK.GHOOKwDOT.GNOTCHED HOOKwDOT.0PINCHED FgERS.0WHITE HEART.
0BROWN HEART.0PINCHg HAND.0ZIPPER-MOUTH FACE.0MONEY-MOUTH FACE.0FACEwTHERMOMETER.0NERD FACE.
0THINKg FACE.0FACEwHEAD-BANDAGE.0ROBOT FACE.0HUGGg FACE.0SIGN OF THE HoNS.0CALL ME HAND.
0RAISED BACK OF HAND.0t-FACg FIST.0h-FACg FIST.0HANDSHAKE.4wINDEXaMIDDLE FgERS CROSSED.
0I LOVE YOU HANDx.0FACEwCOWBOY HAT.0CLOWN FACE.0NAUSEATED FACE.0ROLLg ON THE FLOo LAUGHg.
0DROOLg FACE.0LYg FACE.0FACE PALM.0SNEEZg FACE.0FACEwONE EYEBROW RAISED.0GRINNg FACEwSTAR EYES.
JONE LARGEaONE mEYE.0FACEwFgER COVERg CLOSED LIPS.0SERIOUS FACE WITHpS COVERg MOUTH.
1MILg FACEwSMILg EYESaHAND COVERg MOUTH.0FACEwOPEN MOUTH VOMITg.0SHOCKED FACEwEXPLODg HEAD.
0PREGNANT WOMAN.0BREAST-FEEDg.0PALMS UP TOGETHER.0SELFIE.0PRINCE.0MAN IN TUXEDO.
1OTHER CHRISTMAS.0SHRUG.0PERSON DOg CARTWHEEL.0JUGGLg.0FENCER.0MODERN PENTATHLON.0WRESTLERS.
1ATER POLO.0HANDBALL.0DIVg MASK.0WILTED FLOWER.0DRUMwDRUMSTICKS.0CLINKg GLASSES.0TUMBLER GLASS.
0SPOON.0GOAL NET.0RIFLE.0FIRST PLACE MEDAL.0SECOND PLACE MEDAL.0THIRD PLACE MEDAL.0BOXg GLOVE.
0MARTIAL ARTS UNIFoM.0CURLg STONE.0LACROSSE STICKaBALL.0SOFTBALL.0FLYg DISC.0CROISSANT.0AVOCADO.
0CUCUMBER.0BACON.0POTATO.0CARROT.0BAGUETTE BREAD.0GREEN SALAD.0SHALLOW PAN OF FOOD.
1TUFFED FLATBREAD.0EGG.0GLASS OF MILK.0PEANUTS.0KIWIFRUIT.0PANCAKES.0DUMPLg.0FoTUNE COOKIE.
0TAKEOUT BOX.0CHOPSTICKS.0BOWLwSPOON.0CUPwSTRAW.1OCONUT.0BROCCOLI.0PIE.1RETZEL.0CUT OF MEAT.
0SANDWICH.0CANNED FOOD.0LEAFY GREEN.0MANGO.1OON CAKE.0BAGEL.0SMILg FACEwSMILg EYESaTHREE HEARTS.
0YAWNg FACE.0SMILg FACEwTEAR.0FACEwPARTY HoNaPARTY HAT.AUNEVEN EYESaWAVY MOUTH.0OVERHEATED FACE.
0FREEZg FACE.0NINJA.0DISGUISED FACE.0FACE HOLDg BACK TEARS.5WITH PLEADg EYES.0SARI.0LAB COAT.
0GOGGLES.0HIKg BOOT.0FLAT SHOE.0CRAB.0LION FACE.0SCoPION.0TURKEY.0UNICoN FACE.0EAGLE.0DUCK.0BAT.
0SHARK.0OWL.0FOX FACE.0BUTTERFLY.0DEER.0GoILLA.0LIZARD.0RHINOCEROS.0SHRIMP.1QUID.0GIRAFFE FACE.
0ZEBRA FACE.0HEDGEHOG.0SAUROPOD.0T-REX.0CRICKET.0KANGAROO.0LLAMA.0PEACOCK.0HIPPOPOTAMUS.0PARROT.
0RACCOON.0LOBSTER.0MOSQUITO.1ICROBE.0BADGER.0SWAN.0MAMMOTH.0DODO.0SLOTH.0OTTER.1RANGUTAN.0SKUNK.
0FLAMgO.0OYSTER.0BEAVER.1ISON.0SEAL.0GUIDE DOG.0PROBg CANE.0EMOJI COMPONENT RED HAIR.
GCURLY HAIR.GBALD.GWHITE HAIR.0BONE.0LEG.0FOOT.0TOOTH.0SUPERHERO.5VILLAIN.1AFETY VEST.
0EARwHEARg AID.0MOToIZED WHEELCHAIR.1ANUAL WHEELCHAIR.1ECHANICAL ARM.BLEG.0CHEESE WEDGE.1UPCAKE.
0SALT SHAKER.0BEVERAGE BOX.0GARLIC.0ONION.0FALAFEL.0WAFFLE.0BUTTER.0MATE DRINK.0ICE CUBE.
0BUBBLE TEA.0TROLL.0STANDg PERSON.0KNEELg PERSON.0DEAF PERSON.0FACEwMONOCLE.0ADULT.0CHILD.
0OLDER ADULT.0BEARDED PERSON.0PERSONwHEADSCARF.7IN STEAMY ROOM.7CLIMBg.7IN LOTUS POSIy.0MAGE.
0FAIRY.0VAMPIRE.0MERPERSON.0ELF.0GENIE.0ZOMBIE.0BRAIN.0oANGE HEART.0BILLED CAP.0SCARF.0GLOVES.
0COAT.0SOCKS.0RED GIFT ENVELOPE.0FIRECRACKER.0JIGSAW PUZZLE PIECE.0TEST TUBE.0PETRI DISH.
0DNA dHELIX.0COMPASS.0ABACUS.0FIRE EXTgUISHER.0TOOLBOX.0BRICK.0MAGNET.0LUGGAGE.1Oy BOTTLE.
0SPOOL OF THREAD.0BALL OF YARN.0SAFETY PIN.0TEDDY BEAR.0BROOM.1ASKET.0ROLL OF PAPER.
0BAR OF SOAP.0SPONGE.0RECEIPT.0NAZAR AMULET.1EUTRAL CHESS Kg.EQUEEN.EROOK.EBISHOP.EKNIGHT.EPAWN.
0WHITE CHESS KNIGHT ROTATED FoTY-FIVE DEGREES.0BLACK CHESS KNIGHT ROTATED FoTY-FIVE DEGREES.
0NEUTRAL CHESS KNIGHT ROTATED FoTY-FIVE DEGREES.0WHITE CHESS Kg ROTATED NINETY DEGREES.
CQUEEN ROTATED NINETY DEGREES.CROOK ROTATED NINETY DEGREES.CBISHOP ROTATED NINETY DEGREES.
CKNIGHT ROTATED NINETY DEGREES.CPAWN ROTATED NINETY DEGREES.
0BLACK CHESS Kg ROTATED NINETY DEGREES.CQUEEN ROTATED NINETY DEGREES.
CROOK ROTATED NINETY DEGREES.CBISHOP ROTATED NINETY DEGREES.CKNIGHT ROTATED NINETY DEGREES.
CPAWN ROTATED NINETY DEGREES.0NEUTRAL CHESS Kg ROTATED NINETY DEGREES.
EQUEEN ROTATED NINETY DEGREES.EROOK ROTATED NINETY DEGREES.EBISHOP ROTATED NINETY DEGREES.
EKNIGHT ROTATED NINETY DEGREES.EPAWN ROTATED NINETY DEGREES.
0WHITE CHESS KNIGHT ROTATED ONE HUNDRED THIRTY-FIVE DEGREES.
0BLACK CHESS KNIGHT ROTATED ONE HUNDRED THIRTY-FIVE DEGREES.
0NEUTRAL CHESS KNIGHT ROTATED ONE HUNDRED THIRTY-FIVE DEGREES.0WHITE CHESS TURNED Kg.JQUEEN.
JROOK.JBISHOP.JKNIGHT.JPAWN.0BLACK CHESS TURNED Kg.JQUEEN.JROOK.JBISHOP.JKNIGHT.JPAWN.
0NEUTRAL CHESS TURNED Kg.LQUEEN.LROOK.LBISHOP.LKNIGHT.LPAWN.
0WHITE CHESS KNIGHT ROTATED TWO HUNDRED TWENTY-FIVE DEGREES.
0BLACK CHESS KNIGHT ROTATED TWO HUNDRED TWENTY-FIVE DEGREES.
0NEUTRAL CHESS KNIGHT ROTATED TWO HUNDRED TWENTY-FIVE DEGREES.
0WHITE CHESS Kg ROTATED TWO HUNDRED SEVENTY DEGREES.CQUEEN ROTATED TWO HUNDRED SEVENTY DEGREES.
CROOK ROTATED TWO HUNDRED SEVENTY DEGREES.CBISHOP ROTATED TWO HUNDRED SEVENTY DEGREES.
CKNIGHT ROTATED TWO HUNDRED SEVENTY DEGREES.CPAWN ROTATED TWO HUNDRED SEVENTY DEGREES.
0BLACK CHESS Kg ROTATED TWO HUNDRED SEVENTY DEGREES.CQUEEN ROTATED TWO HUNDRED SEVENTY DEGREES.
CROOK ROTATED TWO HUNDRED SEVENTY DEGREES.CBISHOP ROTATED TWO HUNDRED SEVENTY DEGREES.
CKNIGHT ROTATED TWO HUNDRED SEVENTY DEGREES.CPAWN ROTATED TWO HUNDRED SEVENTY DEGREES.
0NEUTRAL CHESS Kg ROTATED TWO HUNDRED SEVENTY DEGREES.
EQUEEN ROTATED TWO HUNDRED SEVENTY DEGREES.EROOK ROTATED TWO HUNDRED SEVENTY DEGREES.
EBISHOP ROTATED TWO HUNDRED SEVENTY DEGREES.EKNIGHT ROTATED TWO HUNDRED SEVENTY DEGREES.
EPAWN ROTATED TWO HUNDRED SEVENTY DEGREES.
0WHITE CHESS KNIGHT ROTATED THREE HUNDRED FIFTEEN DEGREES.
0BLACK CHESS KNIGHT ROTATED THREE HUNDRED FIFTEEN DEGREES.
0NEUTRAL CHESS KNIGHT ROTATED THREE HUNDRED FIFTEEN DEGREES.0WHITE CHESS EQUIHOPPER.
0BLACK CHESS EQUIHOPPER.0NEUTRAL CHESS EQUIHOPPER.
0WHITE CHESS EQUIHOPPER ROTATED NINETY DEGREES.0BLACK CHESS EQUIHOPPER ROTATED NINETY DEGREES.
0NEUTRAL CHESS EQUIHOPPER ROTATED NINETY DEGREES.0WHITE CHESS KNIGHT-QUEEN.JROOK.JBISHOP.
0BLACK CHESS KNIGHT-QUEEN.JROOK.JBISHOP.@1FA60.0XIANGQI RED GENERAL.CMANDARIN.CELEPHANT.CHoSE.
CCHARIOT.DANNON.CSOLDIER.8BLACK GENERAL.EMANDARIN.EELEPHANT.EHoSE.ECHARIOT.FANNON.ESOLDIER.
@1FA70.0BALLET SHOES.0ONE-PIECE SWIMSUIT.0BRIEFS.0SHoTS.0THONG SANDAL.@1FA78.0DROP OF BLOOD.
0ADHESIVE BANDAGE.0STETHOSCOPE.0X-RAY.0CRUTCH.@1FA80.0YO-YO.0KITE.0PARACHUTE.0BOOMERANG.
0MAGIC WAND.0PINATA.0NESTg DOLLS.@1FA90.0RgED PLANET.0CHAIR.0RAZo.0AXE.0DIYA LAMP.0BANJO.
0MILITARY HELMET.0ACCoDION.0LONG DRUM.0COIN.1ARPENTRY SAW.0SCREWDRIVER.0LADDER.0HOOK.0MIRRo.
0WINDOW.0PLUNGER.0SEWg NEEDLE.0KNOT.0BUCKET.0MOUSE TRAP.0TOOTHBRUSH.0HEADSTONE.0PLACARD.0ROCK.
0MIRRo BALL.0IDENTIFICAy CARD.0LOW BATTERY.0HAMSA.@1FAB0.0FLY.0WoM.0BEETLE.0COCKROACH.
0POTTED PLANT.0WOOD.0FEATHER.0LOTUS.0CoAL.0EMPTY NEST.0NESTwEGGS.@1FAC0.0ANATOMICAL HEART.
0LUNGS.0PEOPLE HUGGg.1REGNANT MAN.9PERSON.1ERSONwCROWN.@1FAD0.0BLUEBERRIES.1ELL PEPPER.0OLIVE.
0FLATBREAD.0TAMALE.0FONDUE.0TEAPOT.0POURg LIQUID.0BEANS.0JAR.@1FAE0.0MELTg FACE.0SALUTg FACE.
0FACEwOPEN EYESaHAND OVER MOUTH.APEEKg EYE.ADIAGONAL MOUTH.0DOTTED LINE FACE.0BITg LIP.1UBBLES.
@1FAF0.0HANDwINDEX FgERaTHUMB CROSSED.0huHAND.0tuHAND.0PALM DOWN HAND.5UP HAND.
0INDEX zAT THE VIEWER.0HEART HANDS.@1FB00.0BLOCK SEXTANT-1.E2.E12.E3.E13.E23.E123.E4.E14.E24.
E124.E34.E134.E234.E1234.E5.E15.E25.E125.E35.E235.E1235.E45.E145.E245.E1245.E345.E1345.E2345.
E12345.E6.E16.E26.E126.E36.E136.E236.E1236.E46.E146.F246.E346.E1346.E2346.E12346.E56.E156.E256.
E1256.E356.E1356.E2356.E12356.E456.E1456.E2456.E12456.E3456.E13456.E23456.
0LOWER t BLOCK DIAGONAL LOWER MIDDLE t TO LOWER CENTRE.ZDLE t TO LOWER h.
QUPPER MIDDLE t TO LOWER CENTRE.ZDLE t TO LOWER h.Wt TO LOWER CENTRE.
6h BLOCK DIAGONAL UPPER MIDDLE t TO UPPER CENTRE.ZDDLE t TO UPPER h.
RLOWER MIDDLE t TO UPPER CENTRE.ZDDLE t TO UPPER h.Xt TO UPPER CENTRE.
XMIDDLE t TO UPPER MIDDLE h.XCENTRE TO LOWER MIDDLE h.Xt TO LOWER MIDDLE h.
XCENTRE TO UPPER MIDDLE h.Xt TO UPPER MIDDLE h.XCENTRE TO UPPER h.
6t BLOCK DIAGONAL UPPER CENTRE TO UPPER MIDDLE h.Wt TO UPPER MIDDLE h.WCENTRE TO LOWER MIDDLE h.
Wt TO LOWER MIDDLE h.WCENTRE TO LOWER h.WMIDDLE t TO LOWER MIDDLE h.
0UPPER h BLOCK DIAGONAL LOWER MIDDLE t TO LOWER CENTRE.ZDDLE t TO LOWER h.
RUPPER MIDDLE t TO LOWER CENTRE.ZDDLE t TO LOWER h.Xt TO LOWER CENTRE.
6t BLOCK DIAGONAL UPPER MIDDLE t TO UPPER CENTRE.ZDLE t TO UPPER h.
QLOWER MIDDLE t TO UPPER CENTRE.ZDLE t TO UPPER h.Wt TO UPPER CENTRE.
WMIDDLE t TO UPPER MIDDLE h.WCENTRE TO LOWER MIDDLE h.Wt TO LOWER MIDDLE h.
WCENTRE TO UPPER MIDDLE h.Wt TO UPPER MIDDLE h.WCENTRE TO UPPER h.
6h BLOCK DIAGONAL UPPER CENTRE TO UPPER MIDDLE h.Xt TO UPPER MIDDLE h.XCENTRE TO LOWER MIDDLE h.
Xt TO LOWER MIDDLE h.XCENTRE TO LOWER h.XMIDDLE t TO LOWER MIDDLE h.
6AND haLOWER TRIANGULAR THREE QUARTERS BLOCK.0taLOWERah TRIANGULAR THREE QUARTERS BLOCK.
0UPPERataLOWER TRIANGULAR THREE QUARTERS BLOCK.0taUPPERah TRIANGULAR THREE QUARTERS BLOCK.
5TRIANGULAR ONE QUARTER BLOCK.0UPPER TRIANGULAR ONE QUARTER BLOCK.
0h TRIANGULAR ONE QUARTER BLOCK.0LOWER TRIANGULAR ONE QUARTER BLOCK.0qONE EIGHTH BLOCK-2.Q3.Q4.
Q5.Q6.Q7.0HoIZONTAL ONE EIGHTH BLOCK-2.S3.S4.S5.S6.S7.0taLOWER ONE EIGHTH BLOCK.
9UPPER ONE EIGHTH BLOCK.0haUPPER ONE EIGHTH BLOCK.ALOWER ONE EIGHTH BLOCK.
0UPPERaLOWER ONE EIGHTH BLOCK.0HoIZONTAL ONE EIGHTH BLOCK-1358.0UPPER ONE QUARTER BLOCK.
6THREE EIGHTHS BLOCK.6FIVE EIGHTHS BLOCK.6THREE QUARTERS BLOCK.6SEVEN EIGHTHS BLOCK.
0h ONE QUARTER BLOCK.6THREE EIGHTHS BLOCK.6FIVE EIGHTHS BLOCK.6THREE QUARTERS BLOCK.
6SEVEN EIGHTHS BLOCK.0t HALF MEDIUM SHADE.0h HALF MEDIUM SHADE.0UPPER HALF MEDIUM SHADE.
0LOWER HALF MEDIUM SHADE.0INVERSE MEDIUM SHADE.
0UPPER HALF BLOCKaLOWER HALF INVERSE MEDIUM SHADE.BINVERSE MEDIUM SHADEaLOWER HALF BLOCK.@1FB94.
0t HALF INVERSE MEDIUM SHADEah HALF BLOCK.0CHECKER BOARD FILL.0INVERSE CHECKER BOARD FILL.
0HEAVY HoIZONTAL FILL.0UPPER t TO LOWER h FILL.6h TO LOWER t FILL.
6AND LOWER TRIANGULAR HALF BLOCK.0tah TRIANGULAR HALF BLOCK.0UPPER t TRIANGULAR MEDIUM SHADE.
6h TRIANGULAR MEDIUM SHADE.0LOWER h TRIANGULAR MEDIUM SHADE.6t TRIANGULAR MEDIUM SHADE.
0BOX DRAWgS LIGHT DIAGONAL UPPER CENTRE TO MIDDLE t.ZENTRE TO MIDDLE h.
SMIDDLE t TO LOWER CENTRE.Zh TO LOWER CENTRE.SUPPER CENTRE TO MIDDLE t TO LOWER CENTRE.
ZENTRE TO MIDDLE h TO LOWER CENTRE.SMIDDLE t TO LOWER CENTRE TO MIDDLE h.
Zt TO UPPER CENTRE TO MIDDLE h.SUPPER CENTRE TO MIDDLE taMIDDLE h TO LOWER CENTRE.
ZENTRE TO MIDDLE haMIDDLE t TO LOWER CENTRE.ZENTRE TO MIDDLE h TO LOWER CENTRE TO MIDDLE t.
ZENTRE TO MIDDLE t TO LOWER CENTRE TO MIDDLE h.
SMIDDLE t TO UPPER CENTRE TO MIDDLE h TO LOWER CENTRE.
Zh TO UPPER CENTRE TO MIDDLE t TO LOWER CENTRE.SDIAMOND.JHoIZONTALwqSTROKE.
0rHEAD-SHAPED POINTER.0INVERSE CHECK MARK.0t HALF RUNNg MAN.0h HALF RUNNg MAN.
0INVERSE DOWNurwTIP tWARDS.0turaUPPERaLOWER ONE EIGHTH BLOCK.0huraUPPERaLOWER ONE EIGHTH BLOCK.
0DOWNurah ONE EIGHTH BLOCK.0UPurah ONE EIGHTH BLOCK.0t HALF FOLDER.0h HALF FOLDER.
0VOIDED GREEK CROSS.0h OPEN SQUARED DOT.0NEGATIVE DIAGONAL CROSS.IMIDDLE h TO LOWER CENTRE.
IDIAMOND.0WHITE HEAVY SALTIREwROUNDED CoNERS.0t THIRD WHITE h zINDEX.
0MIDDLE THIRD WHITE h zINDEX.0h THIRD WHITE h zINDEX.0NEGATIVE SQUARED QUESy MARK.0STICK FIGURE.
CwARMS RAISED.DLEANg t.Lh.DWITH DRESS.0WHITE UP-zCHEVRON.@1FBF0.0SEGMENTED DIGIT ZERO.GONE.GTWO.
HHREE.GFOUR.HIVE.GSIX.HEVEN.GEIGHT.GNINE.@E0001.0LANGUAGE TAG.@E0020.0TAG SPACE.4EXCLAMAy MARK.
4QUOTAy MARK.4NUMBERx.4DOLLARx.4PERCENTx.4AMPERSAND.5POSTROPHE.4t PARENTHESIS.4h PARENTHESIS.
4ASTERISK.4PLUSx.4COMMA.4HYPHEN-MINUS.4FULL STOP.4SOLIDUS.4DIGIT ZERO.AONE.ATWO.BHREE.AFOUR.
BIVE.ASIX.BEVEN.AEIGHT.ANINE.4COLON.4SEMICOLON.4LESS-THANx.4EQUALSx.4GREATER-THANx.4QUESy MARK.
4COMMERCIAL AT.4LATIN cA.PB.PC.PD.PE.PF.PG.PH.PI.PJ.PK.PL.PM.PN.PO.PP.PQ.PR.PS.PT.PU.PV.PW.PX.
PY.PZ.5EFT SQUARE BRACKET.4REVERSE SOLIDUS.5IGHT SQUARE BRACKET.4CIRCUMFLEX ACCENT.4LOW LINE.
4GRAVE ACCENT.4LATIN sA.NB.NC.ND.NE.NF.NG.NH.NI.NJ.NK.NL.NM.NN.NO.NP.NQ.NR.NS.NT.NU.NV.NW.NX.NY.
NZ.5EFT CURLY BRACKET.4qLINE.4h CURLY BRACKET.4TILDE.0CANCEL TAG.@E0100.0VARIAy SELECTo-17.K8.
K9.J20.K1.K2.K3.K4.K5.K6.K7.K8.K9.J30.K1.K2.K3.K4.K5.K6.K7.K8.K9.J40.K1.K2.K3.K4.K5.K6.K7.K8.K9.
J50.K1.K2.K3.K4.K5.K6.K7.K8.K9.J60.K1.K2.K3.K4.K5.K6.K7.K8.K9.J70.K1.K2.K3.K4.K5.K6.K7.K8.K9.
J80.K1.K2.K3.K4.K5.K6.K7.K8.K9.J90.K1.K2.K3.K4.K5.K6.K7.K8.K9.J100.L1.L2.L3.L4.L5.L6.L7.L8.L9.
K10.L1.L2.L3.L4.L5.L6.L7.L8.L9.K20.L1.L2.L3.L4.L5.L6.L7.L8.L9.K30.L1.L2.L3.L4.L5.L6.L7.L8.L9.
K40.L1.L2.L3.L4.L5.L6.L7.L8.L9.K50.L1.L2.L3.L4.L5.L6.L7.L8.L9.K60.L1.L2.L3.L4.L5.L6.L7.L8.L9.
K70.L1.L2.L3.L4.L5.L6.L7.L8.L9.K80.L1.L2.L3.L4.L5.L6.L7.L8.L9.K90.L1.L2.L3.L4.L5.L6.L7.L8.L9.
J200.L1.L2.L3.L4.L5.L6.L7.L8.L9.K10.L1.L2.L3.L4.L5.L6.L7.L8.L9.K20.L1.L2.L3.L4.L5.L6.L7.L8.L9.
K30.L1.L2.L3.L4.L5.L6.L7.L8.L9.K40.L1.L2.L3.L4.L5.L6.L7.L8.L9.K50.L1.L2.L3.L4.L5.L6"

end Draftsman.Text.CharacterName
