/-
# Draftsman.Text.CharacterName.AncientScripts -- scripts from U+10000 to U+1AFFF

The table is written in the notation of `Draftsman.Text.CharacterName` (version 14 of
the character standard).
-/

namespace Draftsman.Text.CharacterName

set_option autoImplicit false

/-- The names of the characters from U+10000 to U+1AFFF: mostly scripts that are no
longer written. -/
def ancientScripts : String :=
  "@10000.0LINEAR B SYLLABLE B008 A.K38 E.K28 I.K61 O.K10 U.K01 DA.K45 DE.K07 DI.K14 DO.K51 DU.
L7 JA.K46 JE.@1000D.K36 JO.K65 JU.K77 KA.K44 KE.K67 KI.K70 KO.K81 KU.L0 MA.K13 ME.K73 MI.K15 MO.
K23 MU.K06 NA.K24 NE.K30 NI.K52 NO.L5 NU.K03 PA.K72 PE.K39 PI.K11 PO.K50 PU.K16 QA.K78 QE.
K21 QI.K32 QO.@10028.K60 RA.K27 RE.K53 RI.K02 RO.K26 RU.K31 SA.K09 SE.K41 SI.K12 SO.K58 SU.
L9 TA.K04 TE.K37 TI.K05 TO.K69 TU.K54 WA.K75 WE.K40 WI.L2 WO.@1003C.K17 ZA.K74 ZE.@1003F.K20 ZO.
L5 A2.K43 A3.K85 AU.K71 DWE.K90 DWO.K48 NWA.K29 PU2.K62 PTE.K76 RA2.K33 RA3.K68 RO2.L6 TA2.
K87 TWE.K91 TWO.@10050.BMBOL B018.J9.I22.I34.I47.J9.I56.I63.J4.I79.I82.J3.J6.J9.@10080.
9IDEOGRAM B100 MAN.L2 WOMAN.L4 DEER.L5 EQUID.MF MARE.MM STALLION.L6F EWE.MM RAM.L7F SHE-GOAT.
MM HE-GOAT.L8F SOW.MM BOAR.L9F COW.MM BULL.K20 WHEAT.L1 BARLEY.L2 OLIVE.L3 SPICE.L5 CYPERUS.
9MONOGRAM B127 KAPO.L8 KANAKO.9IDEOGRAM B130 OIL.L1 WINE.L2.9MONOGRAM B133 AREPA.L5 MERI.
9IDEOGRAM B140 BRONZE.L1 GOLD.L2.L5 WOOL.L6.K50.L1 HoN.L2.L3.L4.9MONOGRAM B156 TURO2.
9IDEOGRAM B157.L8.L9 CLOTH.K60.L1.L2 GARMENT.L3 ARMOUR.L4.L5.L6.L7.L8.L9.K70.L1.L2.L3 MONTH.L4.
L6 TREE.L7.L8.L9.K80.L1.L2.L3.L4.L5.L9.K90.L1 HELMET.J220 FOOTSTOOL.L5 BATHTUB.K30 SPEAR.L1 r.
L2.L3 SWoD.L4.L6.K40 WHEELED CHARIOT.L1 CHARIOT.L2 CHARIOT FRAME.L3 WHEEL.L5.L6.
9MONOGRAM B247 DIPTE.9IDEOGRAM B248.L9.K51.L2.L3.L4 DART.L5.L6.L7.L8.L9.IVESSEL B155.Q200.S1.S2.
S3.S4.S5.S6.S7.S8.S9.R10.S1.S2.S3.S4.S5.S6.S7.S8.S9.R21.S2.S6.S7.S8.S9.R50.Q305.@10100.
0AEGEAN WoD SEPARATo LINE.MDOT.7CHECK MARK.@10107.7NUMBER ONE.ETWO.FHREE.EFOUR.FIVE.ESIX.FEVEN.
EEIGHT.ENINE.ETEN.FWENTY.FHIRTY.EFoTY.FIFTY.ESIXTY.FEVENTY.EEIGHTY.ENINETY.EONE HUNDRED.
ETWO HUNDRED.FHREE HUNDRED.EFOUR HUNDRED.FIVE HUNDRED.ESIX HUNDRED.FEVEN HUNDRED.EEIGHT HUNDRED.
ENINE HUNDRED.EONE THOUSAND.ETWO THOUSAND.FHREE THOUSAND.EFOUR THOUSAND.FIVE THOUSAND.
ESIX THOUSAND.FEVEN THOUSAND.EEIGHT THOUSAND.ENINE THOUSAND.ETEN THOUSAND.FWENTY THOUSAND.
FHIRTY THOUSAND.EFoTY THOUSAND.FIFTY THOUSAND.ESIXTY THOUSAND.FEVENTY THOUSAND.EEIGHTY THOUSAND.
ENINETY THOUSAND.@10137.7WEIGHT BASE UNIT.EFIRST SUBUNIT.ESECOND SUBUNIT.ETHIRD SUBUNIT.
EFOURTH SUBUNIT.7DRY MEASURE FIRST SUBUNIT.7LIQUID MEASURE FIRST SUBUNIT.
7MEASURE SECOND SUBUNIT.FTHIRD SUBUNIT.0GREEK ACROPHONIC ATTIC ONE QUARTER.RHALF.RDRACHMA.NFIVE.
PFTY.PVE HUNDRED.STHOUSAND.PFTY THOUSAND.PVE TALENTS.NTEN TALENTS.NFIFTY TALENTS.
NONE HUNDRED TALENTS.NFIVE HUNDRED TALENTS.NONE THOUSAND TALENTS.NFIVE THOUSAND TALENTS.
SSTATERS.NTEN STATERS.NFIFTY STATERS.NONE HUNDRED STATERS.NFIVE HUNDRED STATERS.
NONE THOUSAND STATERS.NTEN THOUSAND STATERS.NFIFTY THOUSAND STATERS.NTEN MNAS.
HHERAEUM ONE PLETHRON.HTHESPIAN ONE.HHERMIONIAN ONE.HEPIDAUREAN TWO.HTHESPIAN TWO.
HCYRENAIC TWO DRACHMAS.HEPIDAUREAN TWO DRACHMAS.HTROEZENIAN FIVE.STEN.V ALTERNATE FoM.
HHERMIONIAN TEN.HMESSENIAN TEN.HTHESPIAN TEN.RHIRTY.IROEZENIAN FIFTY.X ALTERNATE FoM.
HHERMIONIAN FIFTY.HTHESPIAN FIFTY.QONE HUNDRED.QTHREE HUNDRED.HEPIDAUREAN FIVE HUNDRED.
HTROEZENIAN FIVE HUNDRED.IHESPIAN FIVE HUNDRED.HCARYSTIAN FIVE HUNDRED.HNAXIAN FIVE HUNDRED.
HTHESPIAN ONE THOUSAND.QFIVE THOUSAND.HDELPHIC FIVE MNAS.HSTRATIAN FIFTY MNAS.6ONE HALFx.
J ALTERNATE FoM.6TWO THIRDSx.7HREE QUARTERSx.6YEARx.6TALENTx.6DRACHMAx.6OBOLx.6TWO OBOLSx.
7HREE OBOLSx.6FOUR OBOLSx.7IVE OBOLSx.6METRETESx.6KYATHOS BASEx.6LITRAx.6OUNKIAx.6XESTESx.
6ARTABEx.8OURAx.6GRAMMAx.6TRYBLION BASEx.6ZEROx.6ONE QUARTERx.6SINUSOIDx.6INDICyx.0NOMISMAx.
@10190.0ROMAN SEXTANSx.6UNCIAx.6SEMUNCIAx.8XTULAx.6DIMIDIA SEXTULAx.6SILIQUAx.6DENARIUSx.
6QUINARIUSx.6SESTERTIUSx.6DUPONDIUSx.6ASx.6CENTURIALx.0ASCIAp.@101A0.0GREEKp TAU RHO.@101D0.
0PHAISTOS DISCx PEDESTRIAN.KLUMED HEAD.JTATTOOED HEAD.JCAPTIVE.KHILD.JWOMAN.JHELMET.JGAUNTLET.
JTIARA.Jr.JBOW.JSHIELD.JCLUB.JMANACLES.LTTOCK.JSAW.JLID.JBOOMERANG.JCARPENTRY PLANE.JDOLIUM.
JCOMB.JSLg.JCOLUMN.JBEEHIVE.JSHIP.JHoN.KIDE.JBULLS LEG.JCAT.JRAM.JEAGLE.JDOVE.JTUNNY.JBEE.
JPLANE TREE.JVINE.JPAPYRUS.JROSETTE.JLILY.JOX BACK.JFLUTE.JGRATER.JSTRAINER.KMALL AXE.
JWAVY BAND.JCOMBINg OBLIQUE STROKE.@10280.0LYCIAN lA.EE.EB.FH.EG.ED.EI.EW.EZ.ETH.EJ.EK.EQ.EL.EM.
EN.EMM.ENN.EU.EP.EKK.ER.ES.ET.FT.EAN.EEN.EH.EX.@102A0.0CARIAN lA.EP2.ED.EL.EUUU.ER.ELD.EA2.EQ.
EB.EM.EO.ED2.ET.ESH.G2.F.EC-18.EU.ENN.EX.EN.ETT2.EP.ESS.EI.EE.EUUUU.EK.F2.END.EUU.EG.F2.EST.G2.
ENG.EII.EC-39.ETT.EUUU2.ERR.EMB.G2.G3.G4.ELD2.EE2.EUUU3.@102E0.1OPTIC EPACT THOUSANDS MARK.
DDIGIT ONE.JTWO.KHREE.JFOUR.KIVE.JSIX.KEVEN.JEIGHT.JNINE.DNUMBER TEN.LWENTY.LHIRTY.KFoTY.LIFTY.
KSIXTY.LEVENTY.KEIGHTY.KNINETY.KONE HUNDRED.KTWO HUNDRED.LHREE HUNDRED.KFOUR HUNDRED.
LIVE HUNDRED.KSIX HUNDRED.LEVEN HUNDRED.KEIGHT HUNDRED.KNINE HUNDRED.@10300.0OLD ITALIC lA.IBE.
IKE.IDE.IE.IVE.IZE.IHE.ITHE.II.IKA.IEL.JM.JN.JSH.IO.IPE.ISHE.IKU.IER.JS.ITE.IU.IEKS.IPHE.IKHE.
IEF.JRS.ICHE.III.IUU.IESS.BNUMERAL ONE.JFIVE.JTEN.JFIFTY.@1032D.BlYE.INoTHERN TSE.ISOUTHERN TSE.
0GOTHIC lAHSA.EBAIRKAN.EGIBA.EDAGS.EAIHVUS.EQAIRTHRA.EIUJA.EHAGL.ETHIUTH.EEIS.EKUSMA.ELAGUS.
EMANNA.ENAUTHS.EJER.EURUS.EPAIRTHRA.ENINETY.ERAIDA.ESAUIL.ETEIWS.EWINJA.EFAIHU.EIGGWS.EHWAIR.
EOTHAL.ENINE HUNDRED.@10350.0OLD PERMIC lAN.IBUR.IGAI.IDOI.IE.IZHOI.IDZHOI.IZATA.IDZITA.II.
IKOKE.ILEI.IMENOE.INENOE.IVOOI.IPEEI.IREI.ISII.ITAI.IU.ICHERY.ISHOOI.KCHOOI.IYRY.JERU.IO.JO.IEF.
IHA.ITSIU.IVER.IYER.LI.JAT.IIE.IYU.JA.IIA.0COMBINg OLD PERMIC lAN.SDOI.SZATA.SNENOE.SSII.@10380.
0UGARITIC lALPA.GBETA.GGAMLA.GKHA.GDELTA.GHO.GWO.GZETA.GHOTA.GTET.GYOD.GKAF.GSHIN.GLAMDA.GMEM.
GDHAL.GNUN.GZU.GSAMKA.GAIN.GPU.GSADE.GQOPA.GRASHA.GTHANNA.GGHAIN.GTO.GI.GU.GSSU.@1039F.
9WoD DIVIDER.0OLD PERSIANx A.HI.HU.HKA.IU.HGA.IU.HXA.HCA.HJA.II.HTA.IU.HDA.II.IU.HTHA.HPA.HBA.
HFA.HNA.IU.HMA.II.IU.HYA.HVA.II.HRA.IU.HLA.HSA.HZA.HSHA.ISA.HHA.@103C8.HAURAMAZDAA.R-2.RHA.
HXSHAAYATHIYA.HDAHYAAUSH.Q-2.HBAGA.IUUMISH.CWoD DIVIDER.CNUMBER ONE.JTWO.KEN.KWENTY.JHUNDRED.
@10400.0DESERET cLONG I.SE.SA.TH.SO.TO.NSHoT I.TE.TA.UH.TO.UO.NAY.NOW.NWU.NYEE.NH.NPEE.NBEE.
NTEE.NDEE.NCHEE.NJEE.NKAY.NGAY.NEF.NVEE.NETH.NTHEE.NES.NZEE.NESH.NZHEE.NER.OL.OM.ON.PG.NOI.NEW.
8sLONG I.QE.QA.RH.QO.RO.LSHoT I.RE.RA.SH.RO.SO.LAY.LOW.LWU.LYEE.LH.LPEE.LBEE.LTEE.LDEE.LCHEE.
LJEE.LKAY.LGAY.LEF.LVEE.LETH.LTHEE.LES.LZEE.LESH.LZHEE.LER.ML.MM.MN.NG.LOI.LEW.0SHAVIAN lPEEP.
FTOT.FKICK.FFEE.FTHIGH.FSO.GURE.FCHURCH.FYEA.FHUNG.FBIB.FDEAD.FGAG.FVOW.FTHEY.FZOO.FMEASURE.
FJUDGE.FWOE.FHA-HA.FLOLL.FMIME.FIF.FEGG.FASH.GDO.FON.FWOOL.FOUT.FAH.FROAR.FNUN.FEAT.FAGE.FICE.
FUP.FOAK.GOZE.GIL.FAWE.GRE.Fo.FAIR.FERR.FARRAY.FEAR.FIAN.FYEW.0OSMANYA lALEF.FBA.FTA.FJA.FXA.
FKHA.FDEEL.FRA.FSA.GHIIN.FDHA.FCAYN.FGA.FFA.FQAAF.FKAAF.FLAAN.FMIIN.FNUUN.FWAW.FHA.FYA.FA.FE.FI.
FO.FU.FAA.FEE.FOO.@104A0.8DIGIT ZERO.EONE.ETWO.FHREE.EFOUR.FIVE.ESIX.FEVEN.EEIGHT.ENINE.@104B0.
2AGE cA.MI.NN.MH.LBRA.LCHA.LEHCHA.M.MIN.LHA.MYA.LI.LKA.LEHKA.LKYA.LLA.LMA.LNA.LO.MIN.LPA.LEHPA.
LSA.MHA.LTA.LEHTA.LTSA.LEHTSA.LTSHA.LDHA.LU.LWA.LKHA.LGHA.LZA.MHA.@104D8.6sA.KI.LN.KH.JBRA.JCHA.
JEHCHA.K.KIN.JHA.KYA.JI.JKA.JEHKA.JKYA.JLA.JMA.JNA.JO.KIN.JPA.JEHPA.JSA.KHA.JTA.JEHTA.JTSA.
JEHTSA.JTSHA.JDHA.JU.JWA.JKHA.JGHA.JZA.KHA.@10500.0ELBASAN lA.FBE.FCE.GHE.FDE.FNDE.FDHE.FEI.G.
FFE.FGE.GJE.FHE.FI.FJE.FKE.FLE.GLE.FME.FNE.GA.GJE.FO.FPE.FQE.FRE.GRE.FSE.GHE.FTE.GHE.FU.FVE.FXE.
FY.FZE.GHE.FGHE.HAMMA.FKHE.@10530.0CAUCASIAN ALBANIAN lALT.QBET.QGIM.QDAT.QEB.QZARL.QEYN.QZHIL.
QTAS.QCHA.QYOWD.QZHA.QIRB.QSHA.QLAN.QINYA.QXEYN.QDYAN.QCAR.QJHOX.QKAR.QLYIT.QHEYT.QQAY.QAo.
QCHOY.SI.RYAY.QMAQ.QQAR.QNOWC.QDZYAY.QSHAK.QJAYN.QON.QTYAY.QFAM.QDZAY.QCHAT.QPEN.QGHEYS.QRAT.
QSEYK.QVEYZ.QTIWR.QSHOY.QIWN.QCYAW.RAYN.QYAYD.QPIWR.QKIW.@1056F.JCITAy MARK.0VITHKUQI cA.OBBE.
PE.OCE.PHE.ODE.PHE.OEI.P.OFE.OGA.@1057C.OHA.PHA.OI.PJE.OJE.OKA.OLA.PLA.OME.ONE.PJE.OO.OPE.OQA.
ORE.@1058C.OSE.PHE.OTE.PHE.OU.OVE.OXE.@10594.OY.OZE.@10597.9sA.MBBE.NE.MCE.NHE.MDE.NHE.MEI.N.
MFE.MGA.@105A3.MHA.NHA.MI.NJE.MJE.MKA.MLA.NLA.MME.MNE.NJE.MO.MPE.MQA.MRE.@105B3.MSE.NHE.MTE.NHE.
MU.MVE.MXE.@105BB.MY.MZE.@10600.0LINEAR Ax AB001.I2.I3.I4.I5.I6.I7.I8.I9.H10.I1.I3.I6.I7.H20.I1.
JF.JM.I2.JF.JM.I3.JM.I4.I6.I7.I8.F028B.FB029.H30.I1.I4.I7.I8.I9.H40.I1.I4.I5.I6.I7.I8.I9.H50.I1.
I3.I4.I5.I6.I7.I8.I9.H60.I1.I5.I6.I7.I9.H70.I3.I4.I6.I7.I8.I9.H80.I1.I2.I5.I6.I7.F100-102.FB118.
H20.F120B.FB122.I3.H31A.JB.F131C.FB164.H71.H80.I8.H91.F301.H2.H3.H4.H5.H6.H7.H8.H9A.IB.IC.G10.
H1.H2.H3A.IB.IC.H4.H5.H6.H7.H8.H9.G20.H1.H2.H3.H4.H5.H6.H7.H8.H9.G30.H1.H2.H3.H4.H5.H6.H7.H8.H9.
G40.H1.H2.H3.H4.H5.H6.H7.H8.H9.G50.H1.H2.H3.H4.H5.H6.H7.H8.H9.G60.H1.H2.H3.H4.H5.H6.H7.H8.H9.
G70.H1.F400-VAS.H1-VAS.H2-VAS.H3-VAS.H4-VAS.H5-VAS.H6-VAS.H7-VAS.H8-VAS.H9-VAS.G10-VAS.H1-VAS.
H2-VAS.H3-VAS.H4-VAS.H5-VAS.H6-VAS.H7-VAS.H8-VAS.F501.H2.H3.H4.H5.H6.H8.H9.G10.H1.H2.H3.H5.H6.
G20.H1.H3.H4.H5.H6.H7.H8.H9.G30.H1.H2.H4.H5.H6.H7.H8.H9.G40.H1.H2.H5.H7.H8.H9.G50.H1.H2.H3.H4.
H5.H6.H7.H9.G63.H4.H5.H6.H8.H9.G70.H1.H2.H3.H4.H5.H6.H7.H8.H9.G80.H1.H2.H3.H4.H5.H6.H7.H8.H9.
G91.H2.H4.H5.H6.H8.F600.H1.H2.H3.H4.H6.H8.H9.G10.H1.H2.H3.H4.H5.H6.H7.H8.H9.G20.H1.H2.H3.H4.H6.
H7.H8.H9.G34.H7.H8.G40.H2.H3.H4.H5.H6.H8.H9.G51.H2.H3.H4.H5.H6.H7.H8.H9.G60.H1.H2.H3.H4.@10740.
F701 A.H2 B.H3 D.H4 E.H5 F.H6 H.H7 J.H8 K.H9 L.I-2 L2.J3 L3.J4 L4.J6 L6.G10 W.H1 X.H2 Y.
H3 OMEGA.H4 ABB.H5 BB.H7 DD.G26 EYYY.G32 JE.@10760.F800.H1.H2.H3.H4.H5.H6.H7.@10780.
0MODIFIER lmCAPITAL AA.HUPERSCRIPT TRIANGULAR COLON.SHALF TRIANGULAR COLON.HMALL AE.MCAPITAL B.
MBwHOOK.@10787.MDZ DIGRAPH.WwRETROFLEX HOOK.ZTH CURL.NEZH DIGRAPH.NwTAIL.THOOK.XaTAIL.
MREVERSED E.MCLOSED REVERSED OPEN E.MFENG DIGRAPH.MRAMS HoN.MCAPITAL G.MGwHOOK.MCAPITAL GwHOOK.
MHwSTROKE.MCAPITAL H.MHENGwHOOK.MDOTLESS JwSTROKEaHOOK.MLS DIGRAPH.NZ DIGRAPH.NwBELT.
MCAPITAL LwBELT.MLwRETROFLEX HOOKaBELT.NEZH.QwRETROFLEX HOOK.MTURNED Y.UwBELT.MOwSTROKE.
MCAPITAL OE.NLOSED OMEGA.MQ.MTURNED RwLONG LEG.Z LONG LEGaRETROFLEX HOOK.MRwTAIL.TFISHHOOK.
MCAPITAL R.MTC DIGRAPHwCURL.NS DIGRAPH.WwRETROFLEX HOOK.NESH DIGRAPH.NwRETROFLEX HOOK.MVwh HOOK.
@107B2.MCAPITAL Y.GGLOTTAL STOPwSTROKE.GREVERSED GLOTTAL STOPwSTROKE.GBILABIAL CLICK.
GDENTAL CLICK.GLATERAL CLICK.GALVEOLAR CLICK.GRETROFLEX CLICKwRETROFLEX HOOK.GmSwCURL.@10800.
0CYPRIOT SYLLABLE A.HE.HI.HO.HU.HJA.@10808.IO.@1080A.HKA.IE.II.IO.IU.HLA.IE.II.IO.IU.HMA.IE.II.
IO.IU.HNA.IE.II.IO.IU.HPA.IE.II.IO.IU.HRA.IE.II.IO.IU.HSA.IE.II.IO.IU.HTA.IE.II.IO.IU.HWA.IE.II.
IO.@10837.HXA.IE.@1083C.HZA.@1083F.IO.0IMPERIAL ARAMAIC lALEPH.OBETH.OGIMEL.ODALETH.OHE.OWAW.
OZAYIN.OHETH.OTETH.OYODH.OKAPH.OLAMEDH.OMEM.ONUN.OSAMEKH.OAYIN.OPE.OSADHE.OQOPH.ORESH.OSHIN.
OTAW.@10857.HSECyx.HNUMBER ONE.OTWO.PHREE.PEN.PWENTY.OONE HUNDRED.STHOUSAND.OTEN THOUSAND.
0PALMYRENE lALEPH.HBETH.HGIMEL.HDALETH.HHE.HWAW.HZAYIN.HHETH.HTETH.HYODH.HKAPH.HLAMEDH.HMEM.
HFINAL NUN.HNUN.HSAMEKH.HAYIN.HPE.HSADHE.HQOPH.HRESH.HSHIN.HTAW.CFT-zFLEURON.Ah-zFLEURON.
ANUMBER ONE.HTWO.IHREE.HFOUR.IIVE.HTEN.IWENTY.0NABATAEAN lFINAL ALEPH.HALEPH.HFINAL BETH.HBETH.
HGIMEL.HDALETH.HFINAL HE.HHE.HWAW.HZAYIN.HHETH.HTETH.HFINAL YODH.HYODH.HFINAL KAPH.HKAPH.
HFINAL LAMEDH.HLAMEDH.HFINAL MEM.HMEM.HFINAL NUN.HNUN.HSAMEKH.HAYIN.HPE.HSADHE.HQOPH.HRESH.
HFINAL SHIN.HSHIN.HTAW.@108A7.ANUMBER ONE.HTWO.IHREE.HFOUR.ACRUCIFoM NUMBER FOUR.ANUMBER FIVE.
HTEN.IWENTY.HONE HUNDRED.@108E0.0HATRAN lALEPH.EBETH.EGIMEL.EDALETH-RESH.EHE.EWAW.EZAYN.EHETH.
ETETH.EYODH.EKAPH.ELAMEDH.EMEM.ENUN.ESAMEKH.EAYN.EPE.ESADHE.EQOPH.@108F4.ESHIN.ETAW.@108FB.
7NUMBER ONE.EFIVE.ETEN.FWENTY.EONE HUNDRED.0PHOENICIAN lALF.IBET.IGAML.IDELT.IHE.IWAU.IZAI.IHET.
ITET.IYOD.IKAF.ILAMD.IMEM.INUN.ISEMK.IAIN.IPE.ISADE.IQOF.IROSH.ISHIN.ITAU.BNUMBER ONE.ITEN.
JWENTY.IONE HUNDRED.ITWO.JHREE.@1091F.BWoD SEPARATo.0LYDIAN lA.EB.EG.ED.EE.EV.EI.EY.EK.EL.EM.EN.
EO.ER.ESS.ET.EU.EF.EQ.ES.ETT.EAN.EEN.ELY.ENN.EC.@1093F.7TRIANGULAR MARK.@10980.
0MEROITIC HIEROGLYPHIC lA.TE.TI.TO.TYA.TWA.TBA.V-2.TPA.TMA.TNA.V-2.UE.V-2.TRA.V-2.TLA.TKHA.THHA.
TSA.V-2.UE.TKA.TQA.TTA.V-2.UE.V-2.UO.TDA.MSYMBOL VIDJ.X-2.9CURSIVE lA.OE.OI.OO.OYA.OWA.OBA.OPA.
OMA.ONA.PE.ORA.OLA.OKHA.OHHA.OSA.OARCHAIC SA.OSE.OKA.OQA.OTA.PE.PO.ODA.@109BC.
HFRACy ELEVEN TWELFTHS.QONE HALF.HLOGOGRAM RMT.QIMN.HNUMBER ONE.OTWO.PHREE.OFOUR.PIVE.OSIX.
PEVEN.OEIGHT.ONINE.OTEN.PWENTY.PHIRTY.OFoTY.PIFTY.OSIXTY.PEVENTY.@109D2.OONE HUNDRED.
OTWO HUNDRED.PHREE HUNDRED.OFOUR HUNDRED.PIVE HUNDRED.OSIX HUNDRED.PEVEN HUNDRED.OEIGHT HUNDRED.
ONINE HUNDRED.OONE THOUSAND.OTWO THOUSAND.PHREE THOUSAND.OFOUR THOUSAND.PIVE THOUSAND.
OSIX THOUSAND.PEVEN THOUSAND.OEIGHT THOUSAND.ONINE THOUSAND.OTEN THOUSAND.PWENTY THOUSAND.
PHIRTY THOUSAND.OFoTY THOUSAND.PIFTY THOUSAND.OSIXTY THOUSAND.PEVENTY THOUSAND.OEIGHTY THOUSAND.
ONINETY THOUSAND.OONE HUNDRED THOUSAND.OTWO HUNDRED THOUSAND.PHREE HUNDRED THOUSAND.
OFOUR HUNDRED THOUSAND.PIVE HUNDRED THOUSAND.OSIX HUNDRED THOUSAND.PEVEN HUNDRED THOUSAND.
OEIGHT HUNDRED THOUSAND.ONINE HUNDRED THOUSAND.HFRACy ONE TWELFTH.QTWO TWELFTHS.RHREE TWELFTHS.
QFOUR TWELFTHS.RIVE TWELFTHS.QSIX TWELFTHS.REVEN TWELFTHS.QEIGHT TWELFTHS.QNINE TWELFTHS.
QTEN TWELFTHS.0KHAROSHTHI lA.BvI.MU.MVOCALIC R.@10A05.ME.MO.@10A0C.HLENGTH MARK.BSIGN dRgb.
GANUSVARA.GVISARGA.BlKA.JHA.IGA.JHA.@10A15.ICA.JHA.IJA.@10A19.INYA.ITTA.KHA.IDDA.KHA.INNA.ITA.
JHA.IDA.JHA.INA.IPA.JHA.IBA.JHA.IMA.IYA.IRA.ILA.IVA.ISHA.JSA.JA.IZA.IHA.IKKA.ITTTHA.LA.IVHA.
@10A38.BSIGN BARe.GCAUDA.GDOTb.@10A3F.BVIRAMA.BDIGIT ONE.HTWO.IHREE.HFOUR.BNUMBER TEN.JWENTY.
IONE HUNDRED.MTHOUSAND.BFRACy ONE HALF.@10A50.BPUNCTUAy DOT.Nmn.Nn.ORESCENT BAR.NMANGALAM.
NLOTUS.NDANDA.OOUBLE DANDA.NLINES.@10A60.0OLD SOUTH ARABIAN lHE.PLAMEDH.PHETH.PMEM.PQOPH.PWAW.
PSHIN.PRESH.PBETH.PTAW.PSAT.PKAPH.PNUN.PKHETH.PSADHE.RMEKH.PFE.PALEF.QYN.PDHADHE.PGIMEL.PDALETH.
PGHAYN.PTETH.PZAYN.PDHALETH.PYODH.PTHAW.RETH.INUMBER ONE.PFIFTY.LERIC INDICATo.
4NoTH ARABIAN lHEH.PLAM.PHAH.PMEEM.PQAF.PWAW.PES-2.PREH.PBEH.PTEH.PES-1.PKAF.PNOON.PKHAH.PSAD.
PES-3.PFEH.PALEF.QIN.PDAD.PGEEM.PDAL.PGHAIN.PTAH.PZAIN.PTHAL.PYEH.PTHEH.PZAH.INUMBER ONE.PTEN.
QWENTY.@10AC0.0MANICHAEAN lALEPH.IBETH.JHETH.IGIMEL.JHIMEL.IDALETH.IHE.IWAW.BSIGN UD.BlZAYIN.
JHAYIN.IJAYIN.JHAYIN.IHETH.ITETH.IYODH.IKAPH.IXAPH.IKHAPH.ILAMEDH.IDHAMEDH.ITHAMEDH.IMEM.INUN.
ISAMEKH.IAYIN.JAYIN.IPE.IFE.ISADHE.IQOPH.IXOPH.IQHOPH.IRESH.ISHIN.JSHIN.ITAW.BABBREVIAy MARKe.
TBELOW.@10AEB.BNUMBER ONE.IFIVE.ITEN.JWENTY.IONE HUNDRED.BPUNCTUAy STAR.NFLEURON.
NdDOT WITHIN DOT.PT WITHIN DOT.Q.NTWO DOTS.NLINE FILLER.@10B00.0AVESTAN lA.GA.GO.GAO.GN.GAN.GE.
HE.FE.GE.FO.GO.FI.GI.FU.GU.FKE.FXE.GYE.GVE.FGE.GGE.GHE.FCE.FJE.FTE.GHE.FDE.GHE.FTTE.FPE.FFE.FBE.
GHE.FNGE.HYE.HVE.GE.GYE.GNE.FME.FHME.FYYE.GE.FVE.FRE.FLE.FSE.FZE.FSHE.FZHE.FSHYE.GSHE.FHE.
@10B39.8ABBREVIAy MARK.0TINY TWO DOTS OVER ONE DOT PUNCTUAy.0mTWO DOTS OVER ONE DOT PUNCTUAy.
0LARGE TWO DOTS OVER ONE DOT PUNCTUAy.6ONE DOT OVER TWO DOTS PUNCTUAy.
6TWO RgS OVER ONE Rg PUNCTUAy.6ONE Rg OVER TWO RgS PUNCTUAy.0INSCRIPyAL PARTHIAN lALEPH.UBETH.
UGIMEL.UDALETH.UHE.UWAW.UZAYIN.UHETH.UTETH.UYODH.UKAPH.ULAMEDH.UMEM.UNUN.USAMEKH.UAYIN.UPE.
USADHE.UQOPH.URESH.USHIN.UTAW.@10B58.NNUMBER ONE.UTWO.VHREE.UFOUR.UTEN.VWENTY.UONE HUNDRED.
YTHOUSAND.GHLAVI lALEPH.TBETH.TGIMEL.TDALETH.THE.TWAW-AYIN-RESH.TZAYIN.THETH.TTETH.TYODH.TKAPH.
TLAMEDH.TMEM-QOPH.TNUN.TSAMEKH.TPE.TSADHE.UHIN.TTAW.@10B78.MNUMBER ONE.TTWO.UHREE.TFOUR.TTEN.
UWENTY.TONE HUNDRED.XTHOUSAND.0PSALTER PAHLAVI lALEPH.NBETH.NGIMEL.NDALETH.NHE.NWAW-AYIN-RESH.
NZAYIN.NHETH.NYODH.NKAPH.NLAMEDH.NMEM-QOPH.NNUN.NSAMEKH.NPE.NSADHE.OHIN.NTAW.@10B99.GSECy MARK.
GTURNED SECy MARK.GFOUR DOTSwCROSS.VDOT.@10BA9.GNUMBER ONE.NTWO.OHREE.NFOUR.NTEN.OWENTY.
NONE HUNDRED.@10C00.0OLD TURKIC loKHON A.IYENISEI A.RE.IoKHON I.IYENISEI I.QE.IoKHON O.QE.
IYENISEI OE.IoKHON AB.IYENISEI AB.IoKHON AEB.IYENISEI AEB.IoKHON AG.IYENISEI AG.IoKHON AEG.
IYENISEI AEG.IoKHON AD.IYENISEI AD.IoKHON AED.PEZ.IYENISEI EZ.IoKHON AY.IYENISEI AY.IoKHON AEY.
IYENISEI AEY.IoKHON AEK.IYENISEI AEK.IoKHON OEK.IYENISEI OEK.IoKHON AL.IYENISEI AL.IoKHON AEL.
PELT.QM.PAN.QEN.IYENISEI AEN.IoKHON ENT.IYENISEI ENT.IoKHON ENC.IYENISEI ENC.IoKHON ENY.
IYENISEI ENY.QANG.IoKHON ENG.IYENISEI AENG.IoKHON EP.POP.PIC.PEC.IYENISEI EC.IoKHON AQ.
IYENISEI AQ.IoKHON IQ.IYENISEI IQ.IoKHON OQ.IYENISEI OQ.IoKHON AR.IYENISEI AR.IoKHON AER.QS.QES.
QSH.IYENISEI ASH.IoKHON ESH.IYENISEI ESH.IoKHON AT.IYENISEI AT.IoKHON AET.IYENISEI AET.
IoKHON OT.PBASH.@10C80.4HUNGARIAN cA.UA.TEB.TAMB.TEC.UNC.UCS.UD.TAND.TE.TCLOSE E.TEE.UF.UG.VY.
UH.TI.UI.TEJ.UK.TAK.TUNK.TEL.VY.UM.UN.VY.TO.UO.TNIKOLSBURG OE.TRUDIMENTA OE.TOEE.TEP.UMP.UR.
TSHoT ER.TES.VZ.UT.UNT.UTY.UCH.TU.UU.TNIKOLSBURG UE.TRUDIMENTA UE.TEV.UZ.VS.UNT-SHAPEDx.TUS.
@10CC0.EsA.SA.REB.RAMB.REC.SNC.SCS.SD.RAND.RE.RCLOSE E.REE.SF.SG.TY.SH.RI.SI.REJ.SK.RAK.RUNK.
REL.TY.SM.SN.TY.RO.SO.RNIKOLSBURG OE.RRUDIMENTA OE.ROEE.REP.SMP.SR.RSHoT ER.RES.TZ.ST.SNT.STY.
SCH.RU.SU.RNIKOLSBURG UE.RRUDIMENTA UE.REV.SZ.TS.SNT-SHAPEDx.RUS.@10CFA.ENUMBER ONE.LFIVE.LTEN.
LFIFTY.LONE HUNDRED.PTHOUSAND.0HANIFI ROHgYA lA.NBA.NPA.NTA.OTA.NJA.NCA.NHA.NKHA.NFA.NDA.ODA.
NRA.ORA.NZA.NSA.OHA.NKA.NGA.NLA.NMA.NNA.NWA.NKINNA WA.NYA.NKINNA YA.NNGA.OYA.NVA.GVOWEL A.MI.MU.
ME.MO.GMARK SAKIN.LNA KHONNA.GSIGN HARBAHAY.LTAHALA.NNA.NSSI.@10D30.GDIGIT ZERO.MONE.MTWO.NHREE.
MFOUR.NIVE.MSIX.NEVEN.MEIGHT.MNINE.@10E60.0RUMI DIGIT ONE.BTWO.CHREE.BFOUR.CIVE.BSIX.CEVEN.
BEIGHT.BNINE.5NUMBER TEN.DWENTY.DHIRTY.CFoTY.DIFTY.CSIXTY.DEVENTY.CEIGHTY.CNINETY.CONE HUNDRED.
CTWO HUNDRED.DHREE HUNDRED.CFOUR HUNDRED.DIVE HUNDRED.CSIX HUNDRED.DEVEN HUNDRED.CEIGHT HUNDRED.
CNINE HUNDRED.5FRACy ONE HALF.IQUARTER.ITHIRD.ETWO THIRDS.@10E80.0YEZIDI lELIF.EBE.EPE.FHE.ETHE.
ESE.ECIM.FHIM.GHIM.EHHA.EXA.EDAL.EZAL.ERA.FHA.EZA.EJA.ESIN.FHIN.FAD.EDAD.ETA.EZE.EEYN.EXHEYN.
EFA.EVA.G ALTERNATE FoM.EQAF.EKAF.FHAF.EGAF.ELAM.EMIM.ENUN.EUM.EWAW.EOW.EEW.EHAY.EYOT.EET.
@10EAB.7COMBINg HAMZA MARK.HMADDA MARK.7HYPHENAy MARK.@10EB0.7lLAMwDOTe.EYOTwCIRCUMFLEXe.@10F00.
0OLD SOGDIAN lALEPH.JFINAL ALEPH.JBETH.JFINAL BETH.JGIMEL.JHE.JFINAL HE.JWAW.JZAYIN.JHETH.JYODH.
JKAPH.JLAMEDH.JMEM.JNUN.JFINAL NUN.SwqTAIL.JSAMEKH.JAYIN.KLTERNATE AYIN.JPE.JSADHE.JFINAL SADHE.
UwqTAIL.JRESH-AYIN-DALETH.JSHIN.JTAW.JFINAL TAW.SwqTAIL.CNUMBER ONE.JTWO.KHREE.JFOUR.KIVE.JTEN.
KWENTY.KHIRTY.JONE HUNDRED.CFRACy ONE HALF.CLIGATURE AYIN-DALETH.@10F30.0SOGDIAN lALEPH.FBETH.
FGIMEL.FHE.FWAW.FZAYIN.FHETH.FYODH.FKAPH.FLAMEDH.FMEM.FNUN.FSAMEKH.FAYIN.FPE.FSADHE.FRESH-AYIN.
FSHIN.FTAW.FFETH.FLESH.8INDEPENDENT SHIN.8COMBINg DOTb.ITWO DOTSb.IDOTe.ITWO DOTSe.ICURVEe.
OBELOW.IHOOKe.NBELOW.ILONG HOOKb.IRESHb.ISTROKEb.8NUMBER ONE.FTEN.GWENTY.FONE HUNDRED.
8PUNCTUAy TWO qBARS.ZRSwDOTS.KnwDOT.KTWO nSwDOTS.KHALF nwDOT.@10F70.0OLD UYGHUR lALEPH.IBETH.
IGIMEL-HETH.IWAW.IZAYIN.IFINAL HETH.IYODH.IKAPH.ILAMEDH.IMEM.INUN.ISAMEKH.IPE.ISADHE.IRESH.
ISHIN.ITAW.ILESH.BCOMBINg DOTe.PBELOW.LTWO DOTSe.UBELOW.BPUNCTUAy BAR.NTWO BARS.RDOTS.
NFOUR DOTS.@10FB0.0CHoASMIAN lALEPH.ImALEPH.IBETH.IGIMEL.IDALETH.IHE.IWAW.ICURLED WAW.IZAYIN.
IHETH.IYODH.IKAPH.ILAMEDH.IMEM.INUN.ISAMEKH.IAYIN.IPE.IRESH.ISHIN.ITAW.BNUMBER ONE.ITWO.JHREE.
IFOUR.ITEN.JWENTY.IONE HUNDRED.@10FE0.0ELYMAIC lALEPH.FBETH.FGIMEL.FDALETH.FHE.FWAW.FZAYIN.
FHETH.FTETH.FYODH.FKAPH.FLAMEDH.FMEM.FNUN.FSAMEKH.FAYIN.FPE.FSADHE.FQOPH.FRESH.FSHIN.FTAW.
9IGATURE ZAYIN-YODH.@11000.0BRAHMIx CANDRABINDU.CANUSVARA.CVISARGA.CJIHVAMULIYA.CUPADHMANIYA.
7lA.FA.EI.FI.EU.FU.EVOCALIC R.NR.ML.NL.EE.EAI.EO.EAU.EKA.FHA.EGA.FHA.ENGA.ECA.FHA.EJA.FHA.ENYA.
ETTA.GHA.EDDA.GHA.ENNA.ETA.FHA.EDA.FHA.ENA.EPA.FHA.EBA.FHA.EMA.EYA.ERA.ELA.EVA.ESHA.FSA.FA.EHA.
ELLA.EOLD TAMIL LLLA.ORRA.ONNNA.7vAA.IBHATTIPROLU AA.II.JI.IU.JU.IVOCALIC R.RR.QL.RL.IE.IAI.IO.
IAU.8IRAMA.7DANDA.8OUBLE DANDA.7PUNCTUAy DOT.LUBLE DOT.JLINE.JCRESCENT BAR.JLOTUS.@11052.
7NUMBER ONE.ETWO.FHREE.EFOUR.FIVE.ESIX.FEVEN.EEIGHT.ENINE.ETEN.FWENTY.FHIRTY.EFoTY.FIFTY.ESIXTY.
FEVENTY.EEIGHTY.ENINETY.EONE HUNDRED.ITHOUSAND.7DIGIT ZERO.DONE.DTWO.EHREE.DFOUR.EIVE.DSIX.
EEVEN.DEIGHT.DNINE.7SIGN OLD TAMIL VIRAMA.7lOLD TAMIL SHoT E.UO.7vOLD TAMIL SHoT E.YO.
7lOLD TAMIL LLA.@1107F.7NUMBER JOINER.0KAITHIx CANDRABINDU.CANUSVARA.CVISARGA.7lA.FA.EI.FI.EU.
FU.EE.EAI.EO.EAU.EKA.FHA.EGA.FHA.ENGA.ECA.FHA.EJA.FHA.ENYA.ETTA.GHA.EDDA.GDHA.GHA.ERHA.ENNA.ETA.
FHA.EDA.FHA.ENA.EPA.FHA.EBA.FHA.EMA.EYA.ERA.ELA.EVA.ESHA.FSA.FA.EHA.7vAA.II.JI.IU.JU.IE.IAI.IO.
IAU.7SIGN VIRAMA.CNUKTA.7ABBREVIAyx.7ENUMERAyx.7NUMBERx.7SECy MARK.7dSECy MARK.8ANDA.
8OUBLE DANDA.7vVOCALIC R.@110CD.7NUMBERxe.@110D0.0SoA SOMPENG lSAH.KTAH.KBAH.KCAH.KDAH.KGAH.
KMAH.KNGAH.KLAH.KNAH.KVAH.KPAH.KYAH.KRAH.KHAH.KKAH.KJAH.KNYAH.KAH.KEEH.KIH.KUH.KOH.KEH.KMAE.
@110F0.DDIGIT ZERO.JONE.JTWO.KHREE.JFOUR.KIVE.JSIX.KEVEN.JEIGHT.JNINE.@11100.
0CHAKMAx CANDRABINDU.CANUSVARA.CVISARGA.7lAA.EI.EU.EE.EKAA.FHAA.EGAA.FHAA.ENGAA.ECAA.FHAA.EJAA.
FHAA.ENYAA.ETTAA.GHAA.EDDAA.GHAA.ENNAA.ETAA.FHAA.EDAA.FHAA.ENAA.EPAA.FHAA.EBAA.FHAA.EMAA.EYYAA.
FAA.ERAA.ELAA.EWAA.ESAA.EHAA.7vA.II.JI.IU.JU.IE.IAI.IO.IAU.IOI.7O MARK.7AU MARK.7VIRAMA.
7MAAYYAA.@11136.7DIGIT ZERO.DONE.DTWO.EHREE.DFOUR.EIVE.DSIX.EEVEN.DEIGHT.DNINE.7SECy MARK.
7DANDA.8OUBLE DANDA.7QUESy MARK.7lLHAA.7vAA.IEI.7lVAA.@11150.0MAHAJANI lA.GI.GU.GE.GO.GKA.HHA.
GGA.HHA.GCA.HHA.GJA.HHA.GNYA.GTTA.IHA.GDDA.IHA.GNNA.GTA.HHA.GDA.HHA.GNA.GPA.HHA.GBA.HHA.GMA.GRA.
GLA.GVA.GSA.GHA.GRRA.9SIGN NUKTA.9ABBREVIAyx.9SECy MARK.9LIGATURE SHRI.@11180.
0SHARADAx CANDRABINDU.DANUSVARA.DVISARGA.8lA.GA.FI.GI.FU.GU.FVOCALIC R.OR.NL.OL.FE.FAI.FO.FAU.
FKA.GHA.FGA.GHA.FNGA.FCA.GHA.FJA.GHA.FNYA.FTTA.HHA.FDDA.HHA.FNNA.FTA.GHA.FDA.GHA.FNA.FPA.GHA.
FBA.GHA.FMA.FYA.FRA.FLA.GLA.FVA.FSHA.GSA.GA.FHA.8vAA.JI.KI.JU.KU.JVOCALIC R.SR.RL.SL.JE.JAI.JO.
JAU.8SIGN VIRAMA.DAVAGRAHA.DJIHVAMULIYA.DUPADHMANIYA.8OM.8DANDA.9OUBLE DANDA.8ABBREVIAyx.
8SEPARATo.9ANDHI MARK.9IGN NUKTA.8VOWEL MODIFIER MARK.8EXTRA SHoT VOWEL MARK.8SUTRA MARK.
8vPRISHTHAMATRA E.8SIGN INVERTED CANDRABINDU.8DIGIT ZERO.EONE.ETWO.FHREE.EFOUR.FIVE.ESIX.FEVEN.
EEIGHT.ENINE.8EKAM.8SIGN SIDDHAM.8HEADSTROKE.8CONTINUAyx.8SECy MARK-1.L2.@111E1.
1INHALA ARCHAIC DIGIT ONE.MTWO.NHREE.MFOUR.NIVE.MSIX.NEVEN.MEIGHT.MNINE.GNUMBER TEN.OWENTY.
OHIRTY.NFoTY.OIFTY.NSIXTY.OEVENTY.NEIGHTY.NNINETY.NONE HUNDRED.RTHOUSAND.@11200.0KHOJKI lA.FA.
EI.EU.EE.EAI.EO.EAU.EKA.FHA.EGA.FGA.FHA.ENGA.ECA.FHA.EJA.FJA.@11213.ENYA.ETTA.GHA.EDDA.GHA.ENNA.
ETA.FHA.EDA.FDDA.FHA.ENA.EPA.FHA.EBA.FBA.FHA.EMA.EYA.ERA.ELA.EVA.ESA.EHA.ELLA.7vAA.II.JI.IU.IE.
IAI.IO.IAU.7SIGN ANUSVARA.CVIRAMA.CNUKTA.CSHADDA.7DANDA.8OUBLE DANDA.7WoD SEPARATo.7SECy MARK.
7dSECy MARK.7ABBREVIAyx.7SIGN SUKUN.@11280.0MULTANI lA.FI.FU.FE.FKA.GHA.FGA.@11288.GHA.@1128A.
FCA.GHA.FJA.GJA.@1128F.FNYA.FTTA.HHA.FDDA.HDA.HHA.FNNA.FTA.GHA.FDA.GHA.FNA.FPA.GHA.FBA.@1129F.
GHA.FMA.FYA.FRA.FLA.FVA.FSA.FHA.FRRA.GHA.8SECy MARK.@112B0.0KHUDAWADI lA.IA.HI.II.HU.IU.HE.HAI.
HO.HAU.HKA.IHA.HGA.IGA.IHA.HNGA.HCA.IHA.HJA.IJA.IHA.HNYA.HTTA.JHA.HDDA.JDA.HRRA.HDDHA.HNNA.HTA.
IHA.HDA.IHA.HNA.HPA.IHA.HBA.IBA.IHA.HMA.HYA.HRA.HLA.HVA.HSHA.IA.HHA.ASIGN ANUSVARA.AvAA.LI.MI.
LU.MU.LE.LAI.LO.LAU.ASIGN NUKTA.FVIRAMA.@112F0.ADIGIT ZERO.GONE.GTWO.HHREE.GFOUR.HIVE.GSIX.
HEVEN.GEIGHT.GNINE.@11300.0GRANTHAx COMBINg ANUSVARAe.EANDRABINDU.DANUSVARA.DVISARGA.@11305.8lA.
GA.FI.GI.FU.GU.FVOCALIC R.NL.@1130F.FEE.FAI.@11313.FOO.FAU.FKA.GHA.FGA.GHA.FNGA.FCA.GHA.FJA.GHA.
FNYA.FTTA.HHA.FDDA.HHA.FNNA.FTA.GHA.FDA.GHA.FNA.@1132A.FPA.GHA.FBA.GHA.FMA.FYA.FRA.@11332.FLA.
GLA.@11335.FVA.FSHA.GSA.GA.FHA.@1133B.0COMBINg BINDUb.0GRANTHAx NUKTA.DAVAGRAHA.8vAA.JI.KI.JU.
KU.JVOCALIC R.SR.@11347.JEE.JAI.@1134B.JOO.JAU.8SIGN VIRAMA.@11350.8OM.@11357.8AU LENGTH MARK.
@1135D.8SIGN PLUTA.8lVEDIC ANUSVARA.LdANUSVARA.GOCALIC RR.NLL.8vVOCALIC L.SL.@11366.
0COMBINg GRANTHA DIGIT ZERO.OONE.OTWO.PHREE.OFOUR.PIVE.OSIX.@11370.IlA.PKA.PNA.PVI.PPA.@11400.
0NEWA lA.DA.CI.DI.CU.DU.CVOCALIC R.LR.KL.LL.CE.CAI.CO.CAU.CKA.DHA.CGA.DHA.CNGA.EHA.CCA.DHA.CJA.
DHA.CNYA.EHA.CTTA.EHA.CDDA.EHA.CNNA.CTA.DHA.CDA.DHA.CNA.DHA.CPA.DHA.CBA.DHA.CMA.DHA.CYA.CRA.DHA.
CLA.DHA.CWA.CSHA.DSA.DA.CHA.5vAA.GI.HI.GU.HU.GVOCALIC R.PR.OL.PL.GE.GAI.GO.GAU.5SIGN VIRAMA.
ACANDRABINDU.AANUSVARA.AVISARGA.ANUKTA.AAVAGRAHA.AFINAL ANUSVARA.5OM.5SIDDHI.5DANDA.
6OUBLE DANDA.5COMMA.5GAP FILLER.5ABBREVIAyx.5DIGIT ZERO.BONE.BTWO.CHREE.BFOUR.CIVE.BSIX.CEVEN.
BEIGHT.BNINE.6OUBLE COMMA.5PLACEHOLDER MARK.@1145D.5INSERyx.5SANDHI MARK.5lVEDIC ANUSVARA.
5SIGN JIHVAMULIYA.AUPADHMANIYA.@11480.0TIRHUTA ANJI.8lA.GA.FI.GI.FU.GU.FVOCALIC R.OR.NL.OL.FE.
FAI.FO.FAU.FKA.GHA.FGA.GHA.FNGA.FCA.GHA.FJA.GHA.FNYA.FTTA.HHA.FDDA.HHA.FNNA.FTA.GHA.FDA.GHA.FNA.
FPA.GHA.FBA.GHA.FMA.FYA.FRA.FLA.FVA.FSHA.GSA.GA.FHA.8vAA.JI.KI.JU.KU.JVOCALIC R.SR.RL.SL.JE.
JSHoT E.JAI.JO.JSHoT O.JAU.8SIGN CANDRABINDU.DANUSVARA.DVISARGA.FRAMA.DNUKTA.DAVAGRAHA.8GVANG.
8ABBREVIAyx.8OM.@114D0.8DIGIT ZERO.EONE.ETWO.FHREE.EFOUR.FIVE.ESIX.FEVEN.EEIGHT.ENINE.@11580.
0SIDDHAM lA.GA.FI.GI.FU.GU.FVOCALIC R.OR.NL.OL.FE.FAI.FO.FAU.FKA.GHA.FGA.GHA.FNGA.FCA.GHA.FJA.
GHA.FNYA.FTTA.HHA.FDDA.HHA.FNNA.FTA.GHA.FDA.GHA.FNA.FPA.GHA.FBA.GHA.FMA.FYA.FRA.FLA.FVA.FSHA.
GSA.GA.FHA.8vAA.JI.KI.JU.KU.JVOCALIC R.SR.@115B8.JE.JAI.JO.JAU.8SIGN CANDRABINDU.DANUSVARA.
DVISARGA.FRAMA.DNUKTA.DSIDDHAM.8DANDA.9OUBLE DANDA.8SEPARATo DOT.IBAR.8REPETIy MARK-1.O2.O3.
8END OF TEXT MARK.8SECy MARKwTRIDENTaU-SHAPED oNAMENTS.ZND DOTTED CRESCENTS.
QRAYSaDOTTED CRESCENTS.ZDOTTED dCRESCENTS.ZDOTTED TRIPLE CRESCENTS.LdRg.WwRAYS.LWITH dCRESCENTS.
QTRIPLE CRESCENTS.QQUADRUPLE CRESCENTS.QSEPTUPLE CRESCENTS.QnSaRAYS.ZND TWO ENCLOSURES.
ZND FOUR ENCLOSURES.8lTHREE-n ALTERNATE I.GWO-n ALTERNATE I.Z II.FALTERNATE U.8vALTERNATE U.UU.
@11600.0MODI lA.DA.CI.DI.CU.DU.CVOCALIC R.LR.KL.LL.CE.CAI.CO.CAU.CKA.DHA.CGA.DHA.CNGA.CCA.DHA.
CJA.DHA.CNYA.CTTA.EHA.CDDA.EHA.CNNA.CTA.DHA.CDA.DHA.CNA.CPA.DHA.CBA.DHA.CMA.CYA.CRA.CLA.CVA.
CSHA.DSA.DA.CHA.CLLA.5vAA.GI.HI.GU.HU.GVOCALIC R.PR.OL.PL.GE.GAI.GO.GAU.5SIGN ANUSVARA.AVISARGA.
CRAMA.AARDHACANDRA.5DANDA.6OUBLE DANDA.5ABBREVIAyx.5SIGN HUVA.@11650.5DIGIT ZERO.BONE.BTWO.
CHREE.BFOUR.CIVE.BSIX.CEVEN.BEIGHT.BNINE.@11660.2NGOLIAN BIRGAwoNAMENT.AROTATED BIRGA.
AdBIRGAwoNAMENT.ATRIPLE BIRGAwoNAMENT.ABIRGAwdoNAMENT.AROTATED BIRGAwoNAMENT.TdoNAMENT.
AINVERTED BIRGA.OwdoNAMENT.ASWIRL BIRGA.LwoNAMENT.RdoNAMENT.ATURNED SWIRL BIRGAwdoNAMENT.@11680.
0TAKRI lA.EA.DI.EI.DU.EU.DE.DAI.DO.DAU.DKA.EHA.DGA.EHA.DNGA.DCA.EHA.DJA.EHA.DNYA.DTTA.FHA.DDDA.
FHA.DNNA.DTA.EHA.DDA.EHA.DNA.DPA.EHA.DBA.EHA.DMA.DYA.DRA.DLA.DVA.DSHA.EA.DHA.DRRA.
6SIGN ANUSVARA.BVISARGA.6vAA.HI.II.HU.IU.HE.HAI.HO.HAU.6SIGN VIRAMA.BNUKTA.6lARCHAIC KHA.
6ABBREVIAyx.@116C0.6DIGIT ZERO.CONE.CTWO.DHREE.CFOUR.DIVE.CSIX.DEVEN.CEIGHT.CNINE.@11700.
0AHOM lKA.DHA.CNGA.DA.CTA.CALTERNATE TA.CPA.DHA.CBA.CMA.CJA.CCHA.CTHA.CRA.CLA.CSA.CNYA.CHA.CA.
CDA.DHA.CGA.CALTERNATE GA.CGHA.CBHA.CJHA.CALTERNATE BA.@1171D.5CONSONANTx MEDIAL LA.RRA.
RLIGATg RA.5vA.HA.GI.HI.GU.HU.GE.GAW.GO.GAI.HM.5SIGN KILLER.@11730.5DIGIT ZERO.BONE.BTWO.CHREE.
BFOUR.CIVE.BSIX.CEVEN.BEIGHT.BNINE.5NUMBER TEN.DWENTY.5SIGN mSECy.BECy.ARULAI.6YMBOL VI.5lCA.
CTTA.EHA.CDDA.EHA.CNNA.CLLA.@11800.0DOGRA lA.EA.DI.EI.DU.EU.DE.DAI.DO.DAU.DKA.EHA.DGA.EHA.DNGA.
DCA.EHA.DJA.EHA.DNYA.DTTA.FHA.DDDA.FHA.DNNA.DTA.EHA.DDA.EHA.DNA.DPA.EHA.DBA.EHA.DMA.DYA.DRA.DLA.
DVA.DSHA.ESA.EA.DHA.DRRA.6vAA.HI.II.HU.IU.HVOCALIC R.QR.HE.HAI.HO.HAU.6SIGN ANUSVARA.BVISARGA.
DRAMA.BNUKTA.6ABBREVIAyx.@118A0.0WARANG CITI cNGAA.RA.RWI.RYU.SA.SO.RII.RUU.RE.RO.RANG.RGA.RKO.
RENY.RYUJ.RUC.RENN.RODD.RTTE.RNUNG.RDA.RAT.SM.RBU.RPU.RHIYO.SOLO.TRR.SAR.RSSUU.SII.RVIYO.CsNGAA.
PA.PWI.PYU.QA.QO.PII.PUU.PE.PO.PANG.PGA.PKO.PENY.PYUJ.PUC.PENN.PODD.PTTE.PNUNG.PDA.PAT.QM.PBU.
PPU.PHIYO.QOLO.RRR.QAR.PSSUU.QII.PVIYO.CDIGIT ZERO.IONE.ITWO.JHREE.IFOUR.JIVE.ISIX.JEVEN.IEIGHT.
ININE.CNUMBER TEN.KWENTY.KHIRTY.JFoTY.KIFTY.JSIXTY.KEVENTY.JEIGHTY.JNINETY.@118FF.COM.
0DIVES AKURU lA.KA.JI.KI.JU.KU.JE.@11909.JO.@1190C.JKA.KHA.JGA.KHA.JNGA.JCA.KHA.JJA.@11915.JNYA.
JTTA.@11918.JDDA.LHA.JNNA.JTA.KHA.JDA.KHA.JNA.JPA.KHA.JBA.KHA.JMA.JYA.KYA.JRA.JLA.JVA.JSHA.KSA.
KA.JHA.JLLA.JZA.CvAA.NI.OI.NU.OU.NE.@11937.NAI.NO.@1193B.CSIGN ANUSVARA.HCANDRABINDU.HHALANTA.
CVIRAMA.CPREFIXED NASALx.CMEDIAL YA.CINITIAL RA.CMEDIAL RA.CSIGN NUKTA.CdDANDA.CGAP FILLER.
CEND OF TEXT MARK.@11950.CDIGIT ZERO.IONE.ITWO.JHREE.IFOUR.JIVE.ISIX.JEVEN.IEIGHT.ININE.@119A0.
0NANDINAGARI lA.KA.JI.KI.JU.KU.JVOCALIC R.SR.@119AA.JE.JAI.JO.JAU.JKA.KHA.JGA.KHA.JNGA.JCA.KHA.
JJA.KHA.JNYA.JTTA.LHA.JDDA.LHA.JNNA.JTA.KHA.JDA.KHA.JNA.JPA.KHA.JBA.KHA.JMA.JYA.JRA.JLA.JVA.
JSHA.KSA.KA.JHA.JLLA.JRRA.CvAA.NI.OI.NU.OU.NVOCALIC R.WR.@119DA.NE.NAI.NO.NAU.CSIGN ANUSVARA.
HVISARGA.JRAMA.HAVAGRAHA.HSIDDHAM.CHEADSTROKE.CvPRISHTHAMATRA E.@11A00.0ZANABAZAR SQUARE lA.HvI.
SUE.T.SE.SOE.T.SAI.TU.SREVERSED I.NLENGTH MARK.HlKA.PHA.OGA.PHA.ONGA.OCA.PHA.OJA.ONYA.OTTA.QHA.
ODDA.QHA.ONNA.OTA.PHA.ODA.PHA.ONA.OPA.PHA.OBA.PHA.OMA.OTSA.QHA.ODZA.QHA.OZHA.PA.O-A.OYA.ORA.OLA.
OVA.OSHA.PSA.PA.OHA.OKSSA.HFINAL CONSONANT MARK.HSIGN VIRAMA.MCANDRABINDU.XwoNAMENT.SwoNAMENT.
MANUSVARA.MVISARGA.HCLUSTER-INITIAL lRA.PFINAL lYA.ZER RA.ZER LA.ZER VA.HINITIAL HEAD MARK.
HCLOSg HEAD MARK.HMARK TSHEG.MSHAD.MdSHAD.MLONG TSHEG.HINITIAL DOUBLE-LINED HEAD MARK.
HCLOSg DOUBLE-LINED HEAD MARK.HSUBJOINER.@11A50.0SOYOMBO lA.8vI.JUE.K.JE.JO.KE.JAI.KU.
JVOCALIC R.RL.ELENGTH MARK.8lKA.GHA.FGA.GHA.FNGA.FCA.GHA.FJA.GHA.FNYA.FTTA.HHA.FDDA.HHA.FNNA.
FTA.GHA.FDA.GHA.FNA.FPA.GHA.FBA.GHA.FMA.FTSA.HHA.FDZA.FZHA.GA.F-A.FYA.FRA.FLA.FVA.FSHA.GSA.GA.
FHA.FKSSA.8SIGN JIHVAMULIYA.DUPADHMANIYA.8CLUSTER-INITIAL lRA.VLA.VSHA.WA.8FINAL CONSONANTx G.
TK.TNG.TD.TN.TB.TM.TR.TL.TSH.U.T-A.8SIGN ANUSVARA.DVISARGA.8GEMINAy MARK.8SUBJOINER.8MARK TSHEG.
DSHAD.DdSHAD.DPLUTA.8HEAD MARKwMOONaSUNaTRIPLE FLAME.ZaFLAME.Z.8TERMINAL MARK-1.M2.@11AB0.
0CANADIAN SYLLABICS NATTILIK HI.UI.TO.UO.TA.UA.SSHRI.WI.VO.WO.VA.WA.JSPE.LI.LO.LA.
0PAU CIN HAU lPA.JKA.JLA.JMA.JDA.JZA.JVA.JNGA.JHA.JGA.JKHA.JSA.JBA.JCA.JTA.KHA.JNA.JPHA.JRA.JFA.
JCHA.JA.JE.JI.JO.JU.KA.JIA.JFINAL P.PK.PT.PM.PN.PL.PW.PNG.PY.CRISg TONE LONG.N.
CSANDHI GLOTTAL STOP.CRISg TONE LONG FINAL.OFINAL.CSANDHI GLOTTAL STOP FINAL.JTONE LONG.N.
N LONG FINAL.OFINAL.CMID-LEVEL TONE.CGLOTTAL STOP VARIANT.CMID-LEVEL TONE LONG FINAL.RFINAL.
CLOW-FALLg TONE LONG.S.CGLOTTAL STOP.CLOW-FALLg TONE LONG FINAL.TFINAL.CGLOTTAL STOP FINAL.
@11C00.0BHAIKSUKI lA.IA.HI.II.HU.IU.HVOCALIC R.QR.PL.@11C0A.HE.HAI.HO.HAU.HKA.IHA.HGA.IHA.HNGA.
HCA.IHA.HJA.IHA.HNYA.HTTA.JHA.HDDA.JHA.HNNA.HTA.IHA.HDA.IHA.HNA.HPA.IHA.HBA.IHA.HMA.HYA.HRA.HLA.
HVA.HSHA.ISA.IA.HHA.AvAA.LI.MI.LU.MU.LVOCALIC R.UR.TL.@11C38.LE.LAI.LO.LAU.ASIGN CANDRABINDU.
FANUSVARA.FVISARGA.HRAMA.FAVAGRAHA.ADANDA.BOUBLE DANDA.AWoD SEPARATo.AGAP FILLER-1.L2.@11C50.
ADIGIT ZERO.GONE.GTWO.HHREE.GFOUR.HIVE.GSIX.HEVEN.GEIGHT.GNINE.ANUMBER ONE.HTWO.IHREE.HFOUR.
IIVE.HSIX.IEVEN.HEIGHT.HNINE.HTEN.IWENTY.IHIRTY.HFoTY.IIFTY.HSIXTY.IEVENTY.HEIGHTY.HNINETY.
AHUNDREDS UNIT MARK.@11C70.0MARCHEN HEAD MARK.8MARK SHAD.8lKA.GHA.FGA.FNGA.FCA.GHA.FJA.FNYA.FTA.
GHA.FDA.FNA.FPA.GHA.FBA.FMA.FTSA.HHA.FDZA.FWA.FZHA.GA.F-A.FYA.FRA.FLA.FSHA.GA.FHA.FA.@11C92.
8SUBJOINED lKA.QHA.PGA.PNGA.PCA.QHA.PJA.PNYA.PTA.QHA.PDA.PNA.PPA.QHA.PBA.PMA.PTSA.RHA.PDZA.PWA.
PZHA.QA.@11CA9.PYA.PRA.PLA.PSHA.QA.PHA.PA.8vAA.JI.JU.JE.JO.8SIGN ANUSVARA.DCANDRABINDU.@11D00.
2SARAM GONDI lA.MA.LI.MI.LU.MU.LE.@11D08.LAI.LO.@11D0B.LAU.LKA.MHA.LGA.MHA.LNGA.LCA.MHA.LJA.MHA.
LNYA.LTTA.NHA.LDDA.NHA.LNNA.LTA.MHA.LDA.MHA.LNA.LPA.MHA.LBA.MHA.LMA.LYA.LRA.LLA.LVA.LSHA.MSA.MA.
LHA.LLLA.LKSSA.LJNYA.LTRA.EvAA.PI.QI.PU.QU.PVOCALIC R.@11D3A.PE.@11D3C.PAI.PO.@11D3F.PAU.
ESIGN ANUSVARA.JVISARGA.JNUKTA.JCANDRA.JHALANTA.EVIRAMA.EREPHA.FA-KARA.@11D50.EDIGIT ZERO.KONE.
KTWO.LHREE.KFOUR.LIVE.KSIX.LEVEN.KEIGHT.KNINE.@11D60.0GUNJALA GONDI lA.MA.LI.MI.LU.MU.@11D67.
LEE.LAI.@11D6A.LOO.LAU.LYA.LVA.LBA.MHA.LMA.LKA.MHA.LTA.MHA.LLA.LGA.MHA.LDA.MHA.LNA.LCA.MHA.LTTA.
NHA.LLLA.LJA.MHA.LDDA.NHA.LNGA.LPA.MHA.LHA.LRA.LSA.EvAA.PI.QI.PU.QU.@11D90.PEE.PAI.@11D93.POO.
PAU.ESIGN ANUSVARA.JVISARGA.EVIRAMA.EOM.@11DA0.EDIGIT ZERO.KONE.KTWO.LHREE.KFOUR.LIVE.KSIX.
LEVEN.KEIGHT.KNINE.@11EE0.0MAKASAR lKA.FGA.FNGA.FPA.FBA.FMA.FTA.FDA.FNA.FCA.FJA.FNYA.FYA.FRA.
FLA.FVA.FSA.FA.8ANGKA.8vI.JU.JE.JO.8PASSIMBANG.8END OF SECy.@11FB0.0LISU lYHA.@11FC0.
0TAMIL FRACy ONE THREE-HUNDRED-AND-TWENTIETH.JONE-HUNDRED-AND-SIXTIETH.JEIGHTIETH.JSIXTY-FOURTH.
JFoTIETH.JTHIRTY-SECOND.FTHREE EIGHTIETHS.LSIXTY-FOURTHS.FONE TWENTIETH.JSIXTEENTH-1.T2.JTENTH.
JEIGHTH.FTHREE TWENTIETHS.LSIXTEENTHS.FONE FIFTH.JQUARTER.JHALF-1.O2.FTHREE QUARTERS.
FDOWNSCALg FACTo KIIZH.6SIGN NEL.BCEVITU.BAAZHAAKKU.BUZHAKKU.BMUUVUZHAKKU.BKURUNI.BPATHAKKU.
BMUKKURUNI.BKAACU.BPANAM.CON.BVARAAKAN.BPAARAM.BKUZHI.BVELI.6WET CULTIVAyx.6DRY CULTIVAyx.
6LANDx.6SALT PANx.6TRADIyAL CREDITx.INUMBERx.6CURRENTx.6AND ODDx.6SPENTx.6TOTALx.
6IN POSSESSIONx.6STARTg FROMx.7IGN MUTHALIYA.BVAKAIYARAA.@11FFF.6PUNCTUAy END OF TEXT.
0CUNEIFoMx A.G TIMES A.NBAD.NGAN2 TENU.NHA.NIGI.NLAGAR GUNU.NMUSH.NSAG.G2.GB.H TIMES ASH2.
ODUN3 GUNU.OGAL.QN2 TENU.OHA.OIGI GUNU.PMIN.OLAGAB.OSHESH.OU PLUS U PLUS U.IGUNU.H2.
I TIMES BALAG.PGAN2 TENU.PME PLUS EN.PSHA3.PTAK4.GD.GK.H TIMES ERIN2.OSHITA PLUS GISH.GL.
H TIMES AL.ODIM2.OGISH.OHA.OKAD3.PI.OSHE.OUSH.HAN.HEPH.GMAR.J TIMES SHE.GN.H OVER AN.
ITHREE TIMES.IPLUS NAGA OPPOSg AN PLUS NAGA.SSQUARED.HSHE.GPIN.GRAD.J TIMES KUR.HKAB.GSAL2.HH.
I ZIDA TENU.JKABA TENU.JOVER ASH TUG2 OVER TUG2 TUG2 OVER TUG2 PAP.SOVER ASH.
ZH CROSSg ASH OVER ASH OVER ASH.I2.IGAB.FBA.HD.HG3.HHAR2.HL.I OVER BAL.IAG.HR.IA2.GI.H TIMES A.
OGAR.OIGI GUNU.GU.H OVER BU AB.QUN.ICROSSg BU.HLUG.K OVER BULUG.HR.I2.FDA.HG.
I KISIM5 TIMES A PLUS MASH.XMAR.WBALAG.XI.WGA.Y PLUS MASH.XI.YR2.XUD.WHA.WIR.Y PLUS LU.WKAK.WLA.
XU.Y PLUS MASH2.YM.WNE.WPAP PLUS PAP.WSI.WTAK4.WU2 PLUS GIR2.XSH.HM.HR.IA3.J4.GI.HB.HM.
I TIMES SHE.I2.HN.I KASKAL U GUNU DISH.HSH.GU.H OVER DU.IGUNU.ISHESHIG.HB.I TIMES ESH2.I2.HG.
IUD.HH.HN.I3.J GUNU.O GUNU.I4.HR2.FE.G TIMES PAP.HOVER E NUN OVER NUN.G2.
H TIMES A PLUS HA PLUS DA.OGAR.OMI.OSAL.PHE.OU.GDIN.GGIR.GL.GN.H TIMES GAN2.S TENU.OME.
ICROSSg EN.IOPPOSg EN.ISQUARED.GREN.HIN2.GSH2.GZEN.J TIMES A.R PLUS LAL.ZL TIMES LAL.RN.QBAD.
QDUN3 GUNU.Z GUNU.QHA.S GUNU.QIGI GUNU.QKASKAL.W SQUARED.RU3.QLA.SL TIMES LAL.RI.RU.QU2.RD.FGA.
H GUNU.H2.I TIMES A PLUS DA PLUS HA.WHA.WIGI.QB2 TENU PLUS TAB.QN.QSH.S2 PLUS GAL.PBAD.
RR PLUS RA.QUR.S PLUS RA.PDA.QI.RM TIMES SHE.QUB.PEL.R PLUS LA.QN.R TIMES GAN2 TENU.PGAN2 TENU.
RR.QI.R4.S PLUS A.RR2 PLUS SU.PHA PLUS LU PLUS ESH2.RL.S PLUS LA.QI PLUS LI.QUB2.PIGI GUNU.
QSH PLUS HU PLUS ASH.PKAK.RSKAL.QID.S PLUS LAL.QU3 PLUS AN.PLA.PME PLUS EN.QI.PNUN.S OVER NUN.
PPA.PSAL.RR.QHE.S PLUS TUR.RID.QUM.PTAK4.PU.QD.R PLUS DU.JOVER GA2.HBA.J CROSSg GABA.HD.
I OVER GAD GAR OVER GAR.HL.I GAD OVER GAD GAR OVER GAR.IAM.HM.HN.I2.J TENU.KOVER GAN2.
KCROSSg GAN2.HR.I3.HSHAN.GESHTIN.M TIMES KUR.GI.H TIMES E.OU.ICROSSg GI.H4.I OVER GI4.
JCROSSg GI4.HDIM.HR2.J GUNU.I3.J TIMES A PLUS IGI.QGAN2 TENU.QIGI.QLU PLUS IGI.QPA.HSAL.IH.
J CROSSg GISH.KTIMES BAD.QTAK4.LENU.GU.H CROSSg GU.H2.I TIMES KAK.S TIMES IGI GUNU.PNUN.
PSAL PLUS TUG2.JGUNU.HD.I TIMES A PLUS KUR.PKUR.JOVER GUD LUGAL.HL.HM.I TIMES SHE.HR.I7.IUN.JSH.
FHA.H TENU.IGUNU.HL.GI.H TIMES ASH.R2.OBAD.ODISH.OGAD.OKIN.ONUN.OSHE.OU.GU.HB2.J TIMES AN.QHAL.
QKASKAL.QLISH.QUD.HL2.FI.G A.GB.GDIM.J OVER IDIM BUR.USQUARED.GG.HI.I DIB.JRI.
JOVER IGI SHIR OVER SHIR UD OVER UD.JGUNU.GL.H TIMES GAN2 TENU.H2.GM.H TIMES TAK4.ICROSSg IM.
IOPPOSg IM.ISQUARED.HIN.GN.GR.GSH.FKA.H TIMES A.PD.Q PLUS KU3.PSH2.OBAD.QLAG.QR.PI.OERIN2.PSH2.
OGA.QL.QN2 TENU.QR.R PLUS SHA3 PLUS A.PI.QR2.QSH PLUS SAR.TCROSSg GISH.PU.QR7.OIGI.PM.OKAK.PI.
QD.OLI.PU.OME.Q PLUS DU.WGI.WTE.PI.Q PLUS NUNUZ.ONE.PUN.OPI.ORU.OSA.QR.PHA.QE.QID.QU.PIG.PUHUR.
OTAR.OU.P2.PD.PMUM TIMES PA.PSH.OZI.H2.I CROSSg KA2.HB.HD2.I3.I4.I5.J OVER KAD5.HK.
I TIMES IGI GUNU.HL.I TIMES BAD.JCROSSg KAL.HM2.I4.HSKAL.L LAGAB TIMES U OVER LAGAB TIMES U.
MOVER KASKAL LAGAB TIMES U OVER LAGAB TIMES U.GESH2.GI.H TIMES BAD.OU.PD.HD.HN.HSAL.IH.IIM5.
L OVER KISIM5.GU.H OVER HI TIMES ASH2 KU OVER HI TIMES ASH2.H3.H4.I VARIANT FoM.H7.HL.I GUNU.HN.
HR.I OPPOSg KUR.HSHU2.GWU318.FLA.HGAB.K TIMES A.S PLUS DA PLUS HA.YGAR.YLAL.SL.SN.SSH ZIDA TENU.
RBAD.SI.RDAR.REN.RGA.TR.SUD.U PLUS GUD.RHA.TL.SI TIMES NUN.RIGI GUNU.SM.T PLUS HA.ZLU.RKI.TN.
SU3.TL.U PLUS HI PLUS A.RLAGAB.SISH.SU.TL.RME.T PLUS EN.SUSH.RNE.RSHE PLUS SUM.
TITA PLUS GISH PLUS ERIN2.ZUS GISH TENU.TU2.V PLUS SHU2.SUM.RTAG.TK4.SE PLUS A PLUS SU PLUS NA.
RU.S PLUS A.YU PLUS U.S2 PLUS ASH.SD.SSH.LSQUARED.JR.K TIMES SHE.U PLUS SUM.LGUNU.
P OVER LAGAR GUNU SHE.HHSHU.HL.I TIMES LAL.HM.I TIMES KUR.S PLUS RU.GI.HL.HMMU2.HSH.GU.
H TIMES BAD.H2.I TIMES AL.PBAD.PESH2.T TENU.PGAN2 TENU.PHI TIMES BAD.PIM.PKAD2.S3.T PLUS ASH.QI.
PLA PLUS ASH.RGAB.PME PLUS EN.PNE.QU.PSI PLUS ASH.RK2 PLUS BU.PTUG2.KENU.JCROSSg LU2.
JOPPOSg LU2.JSQUARED.KHESHIG.H3.HGAL.K OVER LUGAL.MPPOSg LUGAL.LSHESHIG.HH.HL.HM.I OVER LUM.
R GAR OVER GAR.FMA.H TIMES TAK4.IGUNU.H2.HH.HR.HSH.J2.GE.HS.GI.HN.GU.H OVER MU.HG.I GUNU.HNSUB.
HRGU2.HSH.J TIMES A.QKUR.QZA.KOVER MUSH.T TIMES A PLUS NA.KCROSSg MUSH.J3.K TIMES A.S PLUS DI.
RDI.LGUNU.FNA.H2.HGA.J INVERTED.KTIMES SHU TENU.KOPPOSg NAGA.JR.HM NUTILLU.I.I2.GE.H TIMES A.
OUD.ISHESHIG.GI.H TIMES E.H2.HM.I TIMES GAN2 TENU.RR PLUS GAN2 TENU.HNDA2.L TIMES AN.TSH.
V PLUS ASH.SGUD.SME PLUS GAN2 TENU.SNE.TUN.SSHE.V PLUS A AN.ZS ASH.ZS ASH PLUS ASH.SU2 PLUS ASH.
TSH.HSAG.GU.H11.HN.I LAGAR TIMES GAR.VMASH.VSAL.Y OVER NUN LAGAR TIMES SAL.VUSH.JTENU.JOVER NUN.
JCROSSg NUN.V LAGAR OVER LAGAR.IUZ.K AB2 TIMES ASHGAB.VBI.VDUG.VGUD.VIGI GUNU.VKAD3.VLA.VNE.
VSILA3.VU2.LKISIM5 TIMES BI.ZI U.FPA.HD.HN.HP.GESH2.GI.H TIMES A.PB.OBI.PU.OE.OI.PB.OU.P2.
ICROSSg PI.HRIG.K TIMES KAL.RUD.RZA.LOPPOSg PIRIG.FRA.HB.GI.GU.FSA.HG NUTILLU.I.I TIMES A.PDU.
RB.PHA.PKAK.QUR.PLUM.PMI.PNUN.PSAL.QHID.PTAB.PU2.QB.QM.QR.QSH.JOVER SAG.JGUNU.HL.
I LAGAB TIMES ASH2.HNGA2.HR.GHA.I3.J TIMES A.QBAD.QGISH.QNE.QSHU2.QTUR.QU.R PLUS A.I6.IB6.IR2.
HE.I HU.JOVER SHE GAD OVER GAD GAR OVER GAR.STAB OVER TAB GAR OVER GAR.IG9.IN.ISH.K2.KLAM.HID.
J TIMES A.QIM.IM.J TIMES A.QBAL.RULUG.QDIN.QGAR.QIGI.T GUNU.QKUSHU2.QLUL.QMUG.QSAL.INIG.IR.
J TENU.KOVER SHIR BUR OVER BUR.ITA.HU.I OVER INVERTED SHU.I2.IBUR.GI.H GUNU.HG.I4.
J OVER SIG4 SHU2.HK2.HLA3.GU.H OVER SU.HD.I2.HHUR.HM.IASH.HR.I9.FTA.H ASTERISK.ITIMES HI.OMI.
IGUNU.HB.I OVER TAB NI OVER NI DISH OVER DISH.JSQUARED.HG.I TIMES BI.PGUD.PSHE.RU.PTUG2.PUD.HK4.
HR.GE.H GUNU.GI.H TENU.HL.HR.I TIMES TAK4.JOVER TIR.R GAD OVER GAD GAR OVER GAR.GU.HG2.HK.HM.HR.
I OVER TUR ZA OVER ZA.FU.G GUD.HU U.HOVER U PA OVER PA GAR OVER GAR.OSUR OVER SUR.
OU REVERSED OVER U REVERSED.G2.GB.GD.H KUSHU2.ITIMES BAD.OMI.OU PLUS U PLUS U.ZUS U GUNU.IGUNU.
ISHESHIG.P TIMES BAD.HUG.GM.H TIMES LAGAB.OME PLUS DA.OSHA3.OU.HBIN.HUM.J TIMES KASKAL.QPA.GN.
H GUNU.GR.H CROSSg UR.ISHESHIG.H2.I TIMES A PLUS HA.WNA.QL.PHA.PNUN.PU2.R PLUS ASH.XBI.H4.HI.I3.
HU.I TIMES A.QSHGAB.PBAR.PDUN.PGA.RL.RN2 TENU.RR.QU.PHA.PIGI.QM.QSH.PKI.PLUM.PMIN.PPA.PSHE.QIG4.
PTU.PU PLUS GUD.QD.QRUDA.IDA.K TIMES U.GSH.I TIMES A.PKU.RR.PTAK4.IX.I2.IUMX.GTUKI.GZ3.
I TIMES KASKAL.HU.FZA.H TENU.ISQUARED TIMES KUR.HG.HMX.GE2.GI.H OVER ZI.H3.HB.I KABA TENU.HG.
HZ2.GU.H5.I TIMES A.HBUR.HM.FKAP ELAMITE.FAB TIMES NUN.H2 TIMES A.GMAR TIMES KUG.
FDAG KISIM5 TIMES U2 PLUS MASH.I3.GISH PLUS SHU.GUB TIMES SHE.FEZEN TIMES GUD.QSHE.
FGA2 TIMES AN PLUS KAK PLUS A.QSH2.GE22.GIG.FHUSH.FKA TIMES ANSHE.PSH3.OGISH.PUD.OHI TIMES ASH2.
OLUM.OPA.OSHUL.OTU.OUR2.FLAGAB TIMES GI.GU2 SHESHIG TIMES BAD.JTIMES ESH2 PLUS LAL.PSHU.FMESH.
GUSH3 TIMES ZA.FNA4.GIN.I9.IDA2 TIMES BAL.SGI.GU11 ROTATED NINETY DEGREES.FPESH2 ASTERISK.GIR2.
FSAG TIMES IGI GUNU.FTI2.FUM TIMES ME.G U.@12400.ANUMERICx TWO ASH.OHREE ASH.NFOUR ASH.OIVE ASH.
NSIX ASH.OEVEN ASH.NEIGHT ASH.NNINE ASH.NTHREE DISH.NFOUR DISH.OIVE DISH.NSIX DISH.OEVEN DISH.
NEIGHT DISH.NNINE DISH.NFOUR U.OIVE U.NSIX U.OEVEN U.NEIGHT U.NNINE U.NONE GESH2.NTWO GESH2.
OHREE GESH2.NFOUR GESH2.OIVE GESH2.NSIX GESH2.OEVEN GESH2.NEIGHT GESH2.NNINE GESH2.NONE GESHU.
NTWO GESHU.OHREE GESHU.NFOUR GESHU.OIVE GESHU.NTWO SHAR2.OHREE SHAR2.Y VARIANT FoM.NFOUR SHAR2.
OIVE SHAR2.NSIX SHAR2.OEVEN SHAR2.NEIGHT SHAR2.NNINE SHAR2.NONE SHARU.NTWO SHARU.OHREE SHARU.
Y VARIANT FoM.NFOUR SHARU.OIVE SHARU.NSHAR2 TIMES GAL PLUS DISH.ZGAL PLUS MIN.NONE BURU.
NTWO BURU.OHREE BURU.X VARIANT FoM.NFOUR BURU.OIVE BURU.NTHREE VARIANT FoM ESH16.ZT FoM ESH21.
NFOUR VARIANT FoM LIMMU.Z FoM LIMMU4.Z FoM LIMMU A.Z FoM LIMMU B.NSIX VARIANT FoM ASH9.
OEVEN VARIANT FoM IMIN3.ZT FoM IMIN A.ZT FoM IMIN B.NEIGHT VARIANT FoM USSU.ZT FoM USSU3.
NNINE VARIANT FoM ILIMMU.Z FoM ILIMMU3.Z FoM ILIMMU4.Z FoM ILIMMU A.NTWO ASH TENU.
OHREE ASH TENU.NFOUR ASH TENU.OIVE ASH TENU.NSIX ASH TENU.NONE BAN2.NTWO BAN2.OHREE BAN2.
NFOUR BAN2.W VARIANT FoM.OIVE BAN2.W VARIANT FoM.NNIGIDAMIN.TESH.NONE ESHE3.NTWO ESHE3.
NONE THIRD DISH.NTWO THIRDS DISH.NFIVE SIXTHS DISH.NONE THIRD VARIANT FoM A.
NTWO THIRDS VARIANT FoM A.NONE EIGHTH ASH.RQUARTER ASH.OLD ASSYRIAN ONE SIXTH.Z ONE QUARTER.
ONE QUARTER GUR.RHALF GUR.NELAMITE ONE THIRD.VTWO THIRDS.VFoTY.WIFTY.NFOUR U VARIANT FoM.
OIVE U VARIANT FoM.NSIX U VARIANT FoM.OEVEN U VARIANT FoM.NEIGHT U VARIANT FoM.
NNINE U VARIANT FoM.@12470.APUNCTUAyx OLD ASSYRIAN WoD DIVIDER.RqCOLON.RDIAGONAL COLON.
Z TRICOLON.Z QUADCOLON.@12480.ASIGN AB TIMES NUN TENU.OSHU2.GD TIMES ESH2.FBAD TIMES DISH TENU.
HHAR2 TIMES AB2.SNI.SZA.GU OVER BU TIMES NA2.FDA TIMES TAK4.HG TIMES KUR.GIM TIMES IGI.PU U U.
I2 TIMES UD.GUG TIMES ANSHE.QSH.S AT t.PDIN.QUN.PERIN2.PGA.QI.RR2 GUNU.RSH.PHA.QI.PIGI GUNU.
PKASKAL.QUR.RSHU2.V PLUS KASKAL.PLAK-020.RM.S TIMES KUR.QUH PLUS GISH.PMASH.QES.QI.PNI.PPI.PSHE.
QI GUNU.FE2 TIMES KUR.OPAP.GRIN2 X.GSH2 CROSSg ESH2.GZEN SHESHIG TIMES ASH.YHI.YIGI GUNU.YLA.
ZAL.YME.ZES.YSU.KTIMES SU.FGA2 TIMES BAHAR2.PDIM GUNU.QUG TIMES IGI GUNU.ZKASKAL.PEREN.PGA.
RR PLUS DI.YNE.PHA PLUS A.PKUSHU2 PLUS KASKAL.PLAM.S TIMES KUR.QUH.PMUSH.PNE.R PLUS E2.XGI.
PSHIM.PZIZ2.HBA ROTATED NINETY DEGREES.GESHTIN TIMES U.GISH TIMES GISH CROSSg GISH.
GU2 TIMES IGI GUNU.HD PLUS GISH TIMES TAK4.FHA TENU GUNU.GI TIMES ASH OVER HI TIMES ASH.
FKA TIMES BU.OKA.OU U U.PR.FLAGAB TIMES ZU OVER ZU.HK-003.K21.L5.K30.K50.L1.K62.
K79 OVER LAK-079 GUNU.K80.L1 OVER LAK-081.K92.J130.K42.J210.L9.K20.L5.L8.K38.K65.L6.J343.L7.L8.
K83.L4.K90.J441.L9.M TIMES GU.TIGI.TPAP PLUS LU3.ZUS PAP PLUS LU3.TU2 PLUS BA.K50.L7.K70.K83.
K90.L2.L3.L5.J550.J608.K17.M TIMES ASH.TBAD.TDUN3 GUNU GUNU.TKU3.TLA.TTAR.UE.TU2.UD.URUDA.K36.
K48.M TIMES DUB.TGA.TIGI.W GUNU.TNI.TPAP PLUS PAP PLUS LU3.TSHESH PLUS KI.TUD.URUDA.J724.K49.
GU2 GUNU TIMES ASH.JTIMES DISH.PHAL.PPAP.S PLUS PAP PLUS LU3.PTAK4.FMI PLUS ZA7.
GUSH OVER MUSH TIMES GA.Z KAK.FNINDA2 TIMES DIM GUNU.SGISH.TUL.SHI.SKESH2.SLAK-050.SMASH.
SPAP PLUS PAP.SU.T PLUS U.TRUDA.FSAG GUNU TIMES HA.JTIMES EN.PSHE AT t.PTAK4.GHA6 TENU.
HE OVER SHE.JPLUS HUB2.ONAM2.OSAR.HU2 PLUS DUG TIMES NI.PE2 TIMES AN.GI TIMES TAK4.
FTAK4 PLUS SAG.GUM TIMES GAN2 TENU.PTHREE DISH.FUR2 INVERTED.JTIMES UD.HU TIMES DARA3.PLAK-668.
QU3.FZA7.GU OVER ZU PLUS SAR.H5 TIMES THREE DISH TENU.@12F90.1YPRO-MINOANx CM001.M2.M4.M5.M6.M7.
M8.M9.L10.M1.M2.NB.M3.M5.M7.M9.L21.M3.M4.M5.M6.M7.M8.M9.L30.M3.M4.M5.M6.M7.M8.M9.L40.M1.M4.M6.
M7.M9.L50.M1.M2.M3.M4.M5.M6.M8.M9.L60.M1.M2.M3.M4.M6.M7.M8.M9.L70.M1.M2.M3.M4.M5.NB.M6.M8.M9.
L80.M1.M2.M3.M4.M5.M6.M7.M8.M9.L90.M1.M2.M4.M5.M6.M7.M8.M9.K100.M1.M2.M3.M4.M5.M7.M8.M9.L10.M2.
M4.K301.M2.@13000.0EGYPTIAN HIEROGLYPH A001.N2.N3.N4.N5.OA.N6.OA.OB.N7.N8.N9.M10.N1.N2.N3.N4.OA.
N5.N6.N7.OA.N8.N9.M20.N1.N2.N3.N4.N5.N6.N7.N8.N9.M30.N1.N2.OA.N3.N4.N5.N6.N7.N8.N9.M40.OA.N1.N2.
OA.N3.OA.N4.N5.OA.N6.N7.N8.N9.M50.N1.N2.N3.N4.N5.N6.N7.N8.N9.M60.N1.N2.N3.N4.N5.N6.N7.N8.N9.M70.
KB001.N2.N3.N4.N5.OA.N6.N7.N8.N9.KC001.N2.OA.OB.OC.N3.N4.N5.N6.N7.N8.N9.M10.OA.N1.N2.N3.N4.N5.
N6.N7.N8.N9.M20.N1.N2.N3.N4.KD001.N2.N3.N4.N5.N6.N7.N8.OA.N9.M10.N1.N2.N3.N4.N5.N6.N7.N8.N9.M20.
N1.N2.N3.N4.N5.N6.N7.OA.N8.N9.M30.N1.OA.N2.N3.N4.OA.N5.N6.N7.N8.N9.M40.N1.N2.N3.N4.N5.N6.OA.N7.
N8.OA.N9.M50.OA.OB.OC.OD.OE.OF.OG.OH.OI.N1.N2.OA.N3.N4.OA.N5.N6.N7.N8.N9.M60.N1.N2.N3.N4.N5.N6.
N7.OA.OB.OC.OD.OE.OF.OG.OH.KE001.N2.N3.N4.N5.N6.N7.N8.OA.N9.OA.M10.N1.N2.N3.N4.N5.N6.OA.N7.OA.
N8.N9.M20.OA.N1.N2.N3.N4.N5.N6.N7.N8.OA.N9.M30.N1.N2.N3.N4.OA.N6.N7.N8.KF001.OA.N2.N3.N4.N5.N6.
N7.N8.N9.M10.N1.N2.N3.OA.N4.N5.N6.N7.N8.N9.M20.N1.OA.N2.N3.N4.N5.N6.N7.N8.N9.M30.N1.OA.N2.N3.N4.
N5.N6.N7.OA.N8.OA.N9.M40.N1.N2.N3.N4.N5.OA.N6.OA.N7.OA.N8.N9.M50.N1.OA.OB.OC.N2.N3.KG001.N2.N3.
N4.N5.N6.OA.N7.OA.OB.N8.N9.M10.N1.OA.N2.N3.N4.N5.N6.N7.N8.N9.M20.OA.N1.N2.N3.N4.N5.N6.OA.N7.N8.
N9.M30.N1.N2.N3.N4.N5.N6.OA.N7.OA.N8.N9.M40.N1.N2.N3.OA.N4.N5.OA.N6.N7.N8.N9.M50.N1.N2.N3.N4.
KH001.N2.N3.N4.N5.N6.OA.N7.N8.KI001.N2.N3.N4.N5.OA.N6.N7.N8.N9.OA.M10.OA.N1.OA.N2.N3.N4.N5.
KK001.N2.N3.N4.N5.N6.N7.N8.KL001.N2.OA.N3.N4.N5.N6.OA.N7.N8.KM001.OA.OB.N2.N3.OA.N4.N5.N6.N7.N8.
N9.M10.OA.N1.N2.OA.OB.OC.OD.OE.OF.OG.OH.N3.N4.N5.OA.N6.OA.N7.OA.N8.N9.M20.N1.N2.OA.N3.N4.OA.N5.
N6.N7.N8.OA.N9.M30.N1.OA.N2.N3.OA.OB.N4.N5.N6.N7.N8.N9.M40.OA.N1.N2.N3.N4.KN001.N2.N3.N4.N5.N6.
N7.N8.N9.M10.N1.N2.N3.N4.N5.N6.N7.N8.OA.OB.N9.M20.N1.N2.N3.N4.N5.OA.N6.N7.N8.N9.M30.N1.N2.N3.OA.
N4.OA.N5.OA.N6.N7.OA.N8.N9.M40.N1.N2.LL001.O2.O3.O4.O5.PA.O6.O7.O8.O9.N10.O1.O2.O3.O4.O5.O6.O7.
PA.O8.O9.N20.LU001.O2.O3.O4.O5.O6.O7.O8.O9.N10.PA.O1.PA.O2.O3.O4.O5.O6.O7.O8.PA.O9.N20.O1.O2.PA.
KO001.OA.N2.N3.N4.N5.OA.N6.OA.OB.OC.OD.OE.OF.N7.N8.N9.M10.OA.OB.OC.N1.N2.N3.N4.N5.N6.N7.N8.N9.
OA.M20.OA.N1.N2.N3.N4.OA.N5.OA.N6.N7.N8.N9.OA.M30.OA.N1.N2.N3.OA.N4.N5.N6.OA.OB.OC.OD.N7.N8.N9.
M40.N1.N2.N3.N4.N5.N6.N7.N8.N9.M50.OA.OB.N1.KP001.OA.N2.N3.OA.N4.N5.N6.N7.N8.N9.M10.N1.KQ001.N2.
N3.N4.N5.N6.N7.KR001.N2.OA.N3.OA.OB.N4.N5.N6.N7.N8.N9.M10.OA.N1.N2.N3.N4.N5.N6.OA.N7.N8.N9.M20.
N1.N2.N3.N4.N5.N6.N7.N8.N9.KS001.N2.OA.N3.N4.N5.N6.OA.N7.N8.N9.M10.N1.N2.N3.N4.OA.OB.N5.N6.N7.
OA.N8.N9.M20.N1.N2.N3.N4.N5.N6.OA.OB.N7.N8.N9.M30.N1.N2.N3.N4.N5.OA.N6.N7.N8.N9.M40.N1.N2.N3.N4.
N5.N6.KT001.N2.N3.OA.N4.N5.N6.N7.OA.N8.OA.N9.OA.M10.N1.OA.N2.N3.N4.N5.N6.OA.N7.N8.N9.M20.N1.N2.
N3.N4.N5.N6.N7.N8.N9.M30.N1.N2.OA.N3.OA.N4.N5.N6.KU001.N2.N3.N4.N5.N6.OA.OB.N7.N8.N9.M10.N1.N2.
N3.N4.N5.N6.N7.N8.N9.M20.N1.N2.N3.OA.N4.N5.N6.N7.N8.N9.OA.M30.N1.N2.OA.N3.N4.N5.N6.N7.N8.N9.M40.
N1.N2.KV001.OA.OB.OC.OD.OE.OF.OG.OH.OI.N2.OA.N3.N4.N5.N6.N7.OA.OB.N8.N9.M10.N1.OA.OB.OC.N2.OA.
OB.N3.N4.N5.N6.N7.N8.N9.M20.OA.OB.OC.OD.OE.OF.OG.OH.OI.OJ.OK.OL.N1.N2.N3.OA.N4.N5.N6.N7.N8.OA.
N9.OA.M30.OA.N1.OA.N2.N3.OA.N4.N5.N6.N7.OA.N8.N9.M40.OA.KW001.N2.N3.OA.N4.N5.N6.N7.N8.N9.OA.M10.
OA.N1.N2.N3.N4.OA.N5.N6.N7.OA.N8.OA.N9.M20.N1.N2.N3.N4.OA.N5.KX001.N2.N3.N4.OA.OB.N5.N6.OA.N7.
N8.OA.KY001.OA.N2.N3.N4.N5.N6.N7.N8.KZ001.N2.OA.OB.OC.OD.N3.OA.OB.N4.OA.N5.OA.N6.N7.N8.N9.M10.
N1.N2.N3.N4.N5.OA.OB.OC.OD.OE.OF.OG.OH.OI.N6.OA.OB.OC.OD.OE.OF.OG.OH.KAA001.O2.O3.O4.O5.O6.O7.
PA.PB.O8.O9.N10.O1.O2.O3.O4.O5.O6.O7.O8.O9.N20.O1.O2.O3.O4.O5.O6.O7.O8.O9.N30.O1.O2.@13430.
KqJOINER.KHoIZONTAL JOINER.KINSERT AT TOP START.UBOTTOM START.UTOP END.UBOTTOM END.
KOVERLAY MIDDLE.KBEGIN SEGMENT.KEND SEGMENT.@14400.0ANATOLIAN HIEROGLYPH A001.O2.O3.O4.O5.O6.O7.
O8.O9.N10.PA.O1.O2.O3.O4.O5.O6.O7.O8.O9.N20.O1.O2.O3.O4.O5.O6.PA.O7.O8.O9.N30.O1.O2.O3.O4.O5.O6.
O7.O8.O9.PA.N40.O1.PA.O2.O3.O4.O5.PA.O6.PA.PB.O7.O8.O9.N50.O1.O2.O3.O4.O5.O6.O7.O8.O9.N60.O1.O2.
O3.O4.O5.O6.PA.PB.PC.O7.O8.O9.N70.O1.O2.O3.O4.O5.O6.O7.O8.O9.N80.O1.O2.O3.O4.O5.O6.O7.O8.O9.N90.
O1.O2.O3.O4.O5.O6.O7.PA.O8.PA.O9.M100.PA.O1.PA.O2.PA.O3.O4.PA.PB.PC.O5.PA.PB.O6.O7.PA.PB.PC.O8.
O9.N10.PA.PB.O1.O2.O3.O4.O5.PA.O6.O7.O8.O9.N20.O1.O2.O3.O4.O5.PA.O6.O7.O8.O9.N30.O1.O2.O3.O4.O5.
PA.O6.O7.O8.O9.N40.O1.O2.O3.O4.O5.O6.O7.O8.O9.N50.O1.O2.O3.O4.O5.O6.O7.O8.O9.N60.O1.O2.O3.O4.O5.
O6.O7.O8.O9.N70.O1.O2.O3.O4.O5.O6.O7.O8.O9.N80.O1.O2.O3.O4.O5.O6.O7.O8.O9.N90.O1.O2.O3.O4.O5.O6.
O7.O8.O9.M200.O1.O2.PA.PB.O3.O4.O5.O6.O7.PA.O8.O9.PA.N10.O1.O2.O3.O4.O5.PA.O6.PA.O7.O8.O9.N20.
O1.O2.O3.O4.O5.O6.O7.PA.O8.O9.N30.O1.O2.O3.O4.O5.O6.O7.O8.O9.N40.O1.O2.O3.O4.O5.O6.O7.O8.O9.N50.
O1.O2.O3.O4.O5.O6.O7.O8.O9.N60.O1.O2.O3.O4.O5.O6.O7.PA.O8.O9.N70.O1.O2.O3.O4.O5.O6.O7.O8.O9.N80.
O1.O2.O3.O4.O5.O6.O7.O8.O9.PA.N90.O1.O2.O3.O4.PA.O5.O6.O7.O8.O9.PA.M300.O1.O2.O3.O4.O5.O6.O7.O8.
O9.PA.N10.O1.O2.O3.O4.O5.O6.O7.O8.O9.N20.O1.O2.O3.O4.O5.O6.O7.O8.O9.PA.N30.O1.O2A.PB.PC.O3.O4.
O5.O6.PA.PB.PC.O7.O8.O9.N40.O1.O2.O3.O4.O5.O6.O7.O8.O9.N50.O1.O2.O3.O4.O5.O6.O7.O8.O9.PA.N60.O1.
O2.O3.O4.PA.O5.O6.O7.O8.PA.O9.N70.O1.PA.O2.O3.O4.O5.O6.O7.O8.O9.N80.O1.PA.O2.O3 RA o RI.PA.O4.
O5.O6.PA.O7.O8.O9.N90.O1.O2.O3 EIGHT.O4.O5.O6.O7.O8.O9.M400.O1.O2.O3.O4.O5.O6.O7.O8.O9.
N10 BEGIN LOGOGRAM MARK.PA END LOGOGRAM MARK.O1.O2.O3.O4.O5.O6.O7.O8.O9.N20.O1.O2.O3.O4.O5.O6.
O7.O8.O9.N30.O1.O2.O3.O4.O5.O6.O7.O8.O9.N40.O1.O2.O3.O4.O5.O6.O7.O8.O9.N50.PA.O1.O2.O3.O4.O5.O6.
O7.PA.O8.O9.N60.O1.O2.O3.O4.O5.O6.O7.O8.O9.N70.O1.O2.O3.O4.O5.O6.O7.O8.O9.N80.O1.O2.O3.O4.O5.O6.
O7.O8.O9.N90.O1.O2.O3.O4.O5.O6.O7.M501.O2.O3.O4.O5.O6.O7.O8.O9.N10.O1.O2.O3.O4.O5.O6.O7.O8.O9.
N20.O1.O2.O3.O4.O5.O6.O7.O8.O9.N30.@16800.0BAMUM lPHASE-A NGKUE MFON.LGBIEE FON.
LPON MFON PIPAEMGBIEE.ZMBA.LNAA MFON.LSHUENSHUET.LTITA MFON.LNZA MFON.LSHINDA PA NJI.
LPON PA NJI PIPAEMGBIEE.ZAEMBA.LMAEMBGBIEE.LTU MAEMBA.LNGANGU.LMAEMVEUX.NNSUAE.MVEUAENGAM.
LSEUNYAM.LNTOQPEN.LKEUKEUTNDA.LNKINDI.LSUU.LNGKUENZEUM.LLAPAQ.MET KUT.LNTAP MFAA.LMAEKEUP.
LPASHAE.LGHEUAERAE.LPAMSHAE.LMON NGGEUAET.LNZUN MEUT.LU YUQ NAE.LGHEUAEGHEUAE.LNTAP NTAA.LSISA.
LMGBASA.MEUNJOMNDEUQ.MOOMPUQ.LKAFA.LPA LEERAEWA.LNDA LEERAEWA.LPET.LMAEMKPEN.LNIKA.LPUP.LTUAEP.
LLUAEP.LSONJAM.LTEUTEUWEN.LMAENYI.LKET.LNDAANGGEUAET.LKUOQ.LMOOMEUT.LSHUM.LLOMMAE.LFIRI.LROM.
LKPOQ.LSOQ.LMAP PIEET.LSHIRAE.LNTAP.LSHOQ NSHUT YUM.LNYIT MONGKEUAEQ.LPAARAE.LNKAARAE.LUNKNOWN.
LNGGEN.LMAESI.LNJAM.LMBANYI.LNYET.LTEUAEN.LSOT.LPAAM.LNSHIEE.LMAEM.LNYI.LKAQ.LNSHA.LVEE.LLU.
LNEN.MAQ.LMBAQ.JB NSHUET.LTU MAEMGBIEE.LSIEE.MET TU.LLOM NTEUM.LMBA MAELEE.LKIEEM.LYEURAE.
LMBAARAE.LKAM.LPEESHI.LYAFU LEERAEWA.LLAM NSHUT NYAM.LNTIEE SHEUOQ.MDU NJAA.LGHEUGHEUAEM.LPIT.
LTU NSIEE.LSHET NJAQ.OUAEQTU.LMFON TEUAEQ.MBIT MBAAKET.LNYI NTEUM.LKEUPUQ.LGHEUGHEN.LKEUYEUX.
LLAANAE.LPARUM.LVEUM.LNGKINDI MVOP.NGEU MBU.LWUAET.LSAKEUAE.LTAAM.LMEUQ.LNGGUOQ.R LARGE.LMFIYAQ.
LSUE.LMBEURI.MONTIEEN.LNYAEMAE.LPUNGAAM.LMEUT NGGEET.LFEUX.LMBUOQ.LFEE.LKEUAEM.LMA NJEUAENA.
QUQA.LLET.LNGGAAM.MSEN.LMA.LKIQ.LNGOM.JC NGKUE MAEMBA.MZA.LYUM.LWANGKUOQ.LNGGEN.MDEUAEREE.MGKAQ.
LGHARAE.LMBEEKEET.LGBAYI.LNYIR MKPARAQ MEUN.MTU MBIT.LMBEUM.LPIRIEEN.LNDOMBU.LMBAA CABBAGE-TREE.
LKEUSHEUAEP.LGHAP.LKEUKAQ.LYU MUOMAE.LNZEUM.LMBUE.LNSEUAEN.LMBIT.LYEUQ.LKPARAQ.MAA.LSEUX.LNDIDA.
LTAASHAE.LNJUEQ.LTITA YUE.LSUAET.LNGGUAEN NYAM.LVEUX.LNANSANAQ.LMA KEUAERI.LNTAA.MGGUON.LLAP.
LMBIRIEEN.MGBASAQ.LNTEUNGBA.LTEUTEUX.LNGGUM.LFUE.LNDEUT.MSA.NHAQ.LBUNG.LVEUAEPEN.LMBERAE.LRU.
LNJAEM.LLAM.LTITUAEP.LNSUOT NGOM.MJEEEE.LKET.LNGGU.LMAESI.MBUAEM.LLU.LKUT.LNJAM.MGOM.LWUP.
LNGGUEET.MSOM.MTEN.LKUOP NKAARAE.LNSUN.MDAM.LMA NSIEE.LYAA.LNDAP.LSHUEQ.METFON.LMBI.MAEMBA.
MBANYI.LKEUSEUX.LMBEUX.LKEUM.LMBAA PICKET.LYUWOQ.LNJEUX.LMIEE.MUAE.LSHIQ.LKEN LAW.PFATIGUE.
LNGAQ.MAQ.LLIQ.LPIN.MEN.LTET.JD MBUO.LWAP.LNJI.LMFON.LNJIEE.LLIEE.LNJEUT.MSHEE.MGGAAMAE.MYAM.
LWUAEN.LNGKUN.LSHEE.LNGKAP.LKEUAETMEUN.LTEUT.LSHEUAE.LNJAP.LSUE.LKET.LYAEMMAE.LKUOM.LSAP.LMFEUT.
LNDEUX.LMALEERI.MEUT.LSEUAEQ.LYEN.LNJEUAEM.LKEUOT MBUAE.LNGKEURI.LTU.LGHAA.LNGKYEE.LFEUFEUAET.
LNDEE.LMGBOFUM.LLEUAEP.LNDON.LMONI.MGBEUN.LPUUT.LMGBIEE.MFO.LLUM.LNSIEEP.LMBAA.LKWAET.LNYET.
LTEUAEN.LSOT.LYUWOQ.LKEUM.LRAEM.LTEEEE.LNGKEUAEQ.LMFEUAE.LNSIEET.LKEUP.LPIP.MEUTAE.LNYUE.LLET.
LNGGAAM.LMFIEE.LNGGWAEN.LYUOM.LPAP.LYUOP.LNDAM.MTEUM.LSUAE.LKUN.LNGGEUX.NKIEE.LTUOT.LMEUN.LKUQ.
LNSUM.LTEUN.LMAENJET.LNGGAP.LLEUM.LNGGUOM.MSHUT.MJUEQ.LGHEUAE.LKU.LREN OLD.LTAE.MOQ.LNYI.LRII.
LLEEEE.LMEEEE.M.LSUU.LMU.LSHII.NEUX.LKYEE.LNU.LSHU.LNTEE.LPEE.LNI.LSHOQ.LPUQ.LMVOP.LLOQ.
LREN MUCH.LTI.LNTUU.LMBAA SEVEN.LSAQ.LFAA.JE NDAP.LTOON.LMBEUM.LLAP.LVOM.LLOON.LPAA.LSOM.LRAQ.
LNSHUOP.MDUN.LPUAE.LTAM.LNGKA.LKPEUX.LWUO.LSEE.LNGGEUAET.LPAAM.LTOO.LKUOP.LLOM.LNSHIEE.MGOP.
LMAEM.LNGKEUX.NOQ.MSHUE.LRIMGBA.LNJEUX.LPEEM.LSAA.LNGGURAE.LMGBA.LGHEUX.LNGKEUAEM.MJAEMLI.LMAP.
LLOOT.LNGGEEEE.MDIQ.LTAEN NTEUM.LSET.LPUM.LNDAA SOFTNESS.MGGUAESHAE NYAM.LYIEE.LGHEUN.LTUAE.
LYEUAE.LPO.LTUMAE.LKEUAE.LSUAEN.LTEUAEQ.LVEUAE.LWEUX.LLAAM.LPU.LTAAQ.LGHAAMAE.LNGEUREUT.
LSHEUAEQ.LMGBEN.MBEE.LNZAQ.MKOM.LGBET.LTUM.LKUET.LYAP.LNYI CLEAVER.LYIT.LMFEUQ.LNDIAQ.LPIEEQ.
LYUEQ.LLEUAEM.LFUE.LGBEUX.LNGKUP.LKET.LMAE.LNGKAAMI.LGHET.LFA.LNTUM.LPEUT.LYEUM.LNGGEUAE.
MYI BETWEEN.MZUQ.LPOON.LMIEE.LFUET.LNAE.LMUAE.LGHEUAE.LFU I.LMVI.LPUAQ.LNGKUM.LKUT.LPIET.LNTAP.
LYEUAET.LNGGUP.LPA PEOPLE.LFU CALL.MOM.LNJEE.LA.LTOQ.LO.LI.LLAQ.LPA PLURAL.LTAA.NQ.
LNDAA MY HOUSE.LSHIQ.LYEUX.LNGUAE.LYUAEN.MOQ SWIMMg.PCOVER.MUQ.NN.LKEUX.LPEUX.LNJEE EPOCH.LPUE.
LWUE.LFEE.LVEE.LLU.LMI.LREUX.MAE.LNGUAET.NA.LSHO.OQ.LFU REMEDY.LNA.LPI.LLOQ.LKO.LMEN.MA.NQ.LTEU.
LKI.LMON.LTEN.LFAQ.LGHOM.JF KA.LU.LKU.LEE.LREE.LTAE.LNYI.LLA.LRII.NEE.LMEEEE.LTAA.LNDAA.MJAEM.
LM.LSUU.MHII.MI.MEUX.LKYEE.MET.LNUAE.N.MJUAE.LYOQ.LSHU.LYA.LNSHA.LPEUX.LNTEE.LWUE.LPEE.LRU.LNI.
LREUX.LKEN.LNGKWAEN.NGA.LSHO.LPUAE.LFOM.LWA.LLI.MOQ.LKO.LMBEN.LREN.LMA.MO.MBAA.LTET.LKPA.LSAMBA.
LVUEQ.@16A40.0MRO lTA.BNGI.BYO.BMIM.BBA.BDA.BA.BPHI.BKHAI.BHAO.BDAI.BCHU.BKEAAE.BOL.BMAEM.BNIN.
BPA.BOO.C.BRO.BSHI.BTHEA.BEA.BWA.BE.BKO.BLAN.D.BHAI.BRI.BTEK.@16A60.4DIGIT ZERO.AONE.ATWO.BHREE.
AFOUR.BIVE.ASIX.BEVEN.AEIGHT.ANINE.@16A6E.5ANDA.5OUBLE DANDA.0TANGSA lOZ.FC.FQ.FX.EAZ.FC.FQ.FX.
EVZ.FC.FQ.FX.EEZ.FC.FQ.FX.EIZ.FC.FQ.FX.EUZ.FC.FQ.FX.EAWZ.GC.GQ.GX.EUIZ.GC.GQ.GX.EFINAL NG.
ELONG UEX.ESHoT UEZ.KAWX.EUEC.GZ.GQ.GX.FIUZ.HC.HQ.HX.EMZ.FC.FQ.FX.EKA.FHA.EGA.ENGA.ESA.EYA.EWA.
EPA.ENYA.EPHA.EBA.EMA.ENA.EHA.ELA.EHTA.ETA.EDA.ERA.ENHA.ESHA.ECA.ETSA.EGHA.EHTTA.ETHA.EXA.EFA.
EDHA.ECHA.EZA.@16AC0.7DIGIT ZERO.DONE.DTWO.EHREE.DFOUR.EIVE.DSIX.EEVEN.DEIGHT.DNINE.@16AD0.
0BASSA VAH lENNI.HKA.HSE.HFA.HMBE.HYIE.HGAH.HDHII.HKPAH.HJO.HHWAH.HWA.HZO.HGBU.HDO.HCE.HUWU.HTO.
HBA.HVU.HYEIN.HPA.HWADDA.HA.HO.IO.HU.HEE.I.HI.@16AF0.ACOMBINg HIGH TONE.KLOW TONE.KMID TONE.
KLOW-MID TONE.KHIGH-LOW TONE.AFULL STOP.@16B00.0PAHAWH HMONG VOWEL KEEB.MV.KIB.LV.KAUB.MV.KUB.
LV.KEB.LV.KAIB.MV.KOOB.MV.KAWB.MV.KUAB.MV.KOB.LV.KIAB.MV.KAB.LV.KWB.LV.KAAB.MV.DCONSONANT VAU.
NNTSAU.NLAU.NHAU.NNLAU.NRAU.NNKAU.NQHAU.NYAU.NHLAU.NMAU.NCHAU.NNCHAU.NHNAU.NPLHAU.NNTHAU.OAU.
NAU.NXAU.NCAU.DMARK CIM TUB.MSO.MKES.NHAV.MSUAM.MHOM.MTAUM.DSIGN VOS THOM.NSHAB CEEB.ICIM CHEEM.
IVOS THIAB.MFEEM.IXYEEM NTXIV.ORHO.OTOV.OFAIB.IVOS SEEV.IMEEJ SUAB.IVOS NRUA.IIB YAM.IXAUS.
ICIM TSOV ROG.@16B50.DDIGIT ZERO.JONE.JTWO.KHREE.JFOUR.KIVE.JSIX.KEVEN.JEIGHT.JNINE.@16B5B.
DNUMBER TENS.KHUNDREDS.KTEN THOUSANDS.KMILLIONS.KHUNDRED MILLIONS.KTEN BILLIONS.LRILLIONS.
@16B63.DSIGN VOS LUB.IXYOO.IHLI.ITHIRD-STAGE HLI.IZWJ THAJ.IHNUB.INQIG.IXIAB.INTUJ.IAV.
ITXHEEJ CEEV.IMEEJ TSEEB.ITAU.ILOS.IMUS.ICIM HAIS LUS NTOG NTOG.MCUAM TSHOOJ.MTXWV.Q CHWV.
MPUB DAWB.MNRES TOS.@16B7D.DCLANx TSHEEJ.NYEEG.NLIS.OAUJ.NXYOOJ.NKOO.NHAWJ.NMUAS.NTHOJ.OSAB.
NPHAB.NKHAB.NHAM.NVAJ.NFAJ.NYAJ.NTSWB.NKWM.NVWJ.@16E40.0MEDEFAIDRIN cM.RS.RV.RW.RATIU.RZ.RKP.RP.
RT.RG.RF.RI.RK.RA.RJ.RE.RB.RC.RU.RYU.RL.RQ.RHP.RNY.RX.RD.ROE.RN.RR.RO.RAI.RY.CsM.PS.PV.PW.PATIU.
PZ.PKP.PP.PT.PG.PF.PI.PK.PA.PJ.PE.PB.PC.PU.PYU.PL.PQ.PHP.PNY.PX.PD.POE.PN.PR.PO.PAI.PY.
CDIGIT ZERO.IONE.ITWO.JHREE.IFOUR.JIVE.ISIX.JEVEN.IEIGHT.ININE.CNUMBER TEN.JELEVEN.JTWELVE.
KHIRTEEN.JFOURTEEN.KIFTEEN.JSIXTEEN.KEVENTEEN.JEIGHTEEN.JNINETEEN.CDIGIT ONE ALTERNATE FoM.
ITWO ALTERNATE FoM.JHREE ALTERNATE FoM.CCOMMA.CFULL STOP.CSYMBOL AIVA.CEXCLAMAy OH.@16F00.
1IAO lPA.CBA.CYI PA.CPLA.CMA.DHA.CARCHAIC MA.CFA.CVA.DFA.CTA.CDA.CYI TTA.GA.CTTA.CDDA.CNA.DHA.
CYI NNA.CARCHAIC NA.CNNA.EHA.CLA.DYA.DHA.EYA.CTLHA.CDLHA.CTLHYA.CDLHYA.CKA.CGA.CYI KA.CQA.DGA.
CNGA.EHA.CARCHAIC NGA.CHA.CXA.CGHA.EHA.CTSSA.CDZZA.CNYA.EHA.CTSHA.CDZHA.CYI TSHA.FDZHA.
CREFoMED TSHA.CSHA.DSA.CZHA.DSHA.CTSA.CDZA.CYI TSA.CSA.CZA.DSA.DZA.ESA.CARCHAIC ZZA.CZZYA.ESYA.
CWA.CAH.CHHA.CBRI.CSYI.CDZYI.CTE.DSE.CRTE.@16F4F.5SIGN CONSONANT MODIFIER BAR.5lNASALIZAy.
5SIGN ASPIRAy.AREFoMED VOICg.JASPIRAy.5vA.HA.HHH.HN.IG.GO.HO.GWO.H.GE.HN.IG.GOEY.GI.HA.IN.JG.HO.
HE.HI.HU.HNG.GU.HA.IN.JG.HU.HEI.HNG.GY.HI.GAE.IE.GERR.GROUNDED ERR.GER.GROUNDED ER.GAI.GEI.GAU.
GOU.GN.HG.GUOG.GYUI.GOG.HER.GVW.GIG.GEA.GIONG.GUI.@16F8F.5TONE h.ATOP h.AABOVE.ABELOW.5lTONE-2.
H3.H4.H5.H6.H7.H8.CREFoMED TONE-1.Q2.Q4.Q5.Q6.Q8.@16FE0.0TANGUT ITERAy MARK.0NUSHU ITERAy MARK.
0OLD CHINESE HOOK MARK.CITERAy MARK.0KHITAN mSCRIPT FILLER.@16FF0.
0VIETNAMESE ALTERNATE READg MARK CA.YNHAY.@18800.0TANGUT COMPONENT-001.J2.J3.J4.J5.J6.J7.J8.J9.
I10.J1.J2.J3.J4.J5.J6.J7.J8.J9.I20.J1.J2.J3.J4.J5.J6.J7.J8.J9.I30.J1.J2.J3.J4.J5.J6.J7.J8.J9.
I40.J1.J2.J3.J4.J5.J6.J7.J8.J9.I50.J1.J2.J3.J4.J5.J6.J7.J8.J9.I60.J1.J2.J3.J4.J5.J6.J7.J8.J9.
I70.J1.J2.J3.J4.J5.J6.J7.J8.J9.I80.J1.J2.J3.J4.J5.J6.J7.J8.J9.I90.J1.J2.J3.J4.J5.J6.J7.J8.J9.
H100.J1.J2.J3.J4.J5.J6.J7.J8.J9.I10.J1.J2.J3.J4.J5.J6.J7.J8.J9.I20.J1.J2.J3.J4.J5.J6.J7.J8.J9.
I30.J1.J2.J3.J4.J5.J6.J7.J8.J9.I40.J1.J2.J3.J4.J5.J6.J7.J8.J9.I50.J1.J2.J3.J4.J5.J6.J7.J8.J9.
I60.J1.J2.J3.J4.J5.J6.J7.J8.J9.I70.J1.J2.J3.J4.J5.J6.J7.J8.J9.I80.J1.J2.J3.J4.J5.J6.J7.J8.J9.
I90.J1.J2.J3.J4.J5.J6.J7.J8.J9.H200.J1.J2.J3.J4.J5.J6.J7.J8.J9.I10.J1.J2.J3.J4.J5.J6.J7.J8.J9.
I20.J1.J2.J3.J4.J5.J6.J7.J8.J9.I30.J1.J2.J3.J4.J5.J6.J7.J8.J9.I40.J1.J2.J3.J4.J5.J6.J7.J8.J9.
I50.J1.J2.J3.J4.J5.J6.J7.J8.J9.I60.J1.J2.J3.J4.J5.J6.J7.J8.J9.I70.J1.J2.J3.J4.J5.J6.J7.J8.J9.
I80.J1.J2.J3.J4.J5.J6.J7.J8.J9.I90.J1.J2.J3.J4.J5.J6.J7.J8.J9.H300.J1.J2.J3.J4.J5.J6.J7.J8.J9.
I10.J1.J2.J3.J4.J5.J6.J7.J8.J9.I20.J1.J2.J3.J4.J5.J6.J7.J8.J9.I30.J1.J2.J3.J4.J5.J6.J7.J8.J9.
I40.J1.J2.J3.J4.J5.J6.J7.J8.J9.I50.J1.J2.J3.J4.J5.J6.J7.J8.J9.I60.J1.J2.J3.J4.J5.J6.J7.J8.J9.
I70.J1.J2.J3.J4.J5.J6.J7.J8.J9.I80.J1.J2.J3.J4.J5.J6.J7.J8.J9.I90.J1.J2.J3.J4.J5.J6.J7.J8.J9.
H400.J1.J2.J3.J4.J5.J6.J7.J8.J9.I10.J1.J2.J3.J4.J5.J6.J7.J8.J9.I20.J1.J2.J3.J4.J5.J6.J7.J8.J9.
I30.J1.J2.J3.J4.J5.J6.J7.J8.J9.I40.J1.J2.J3.J4.J5.J6.J7.J8.J9.I50.J1.J2.J3.J4.J5.J6.J7.J8.J9.
I60.J1.J2.J3.J4.J5.J6.J7.J8.J9.I70.J1.J2.J3.J4.J5.J6.J7.J8.J9.I80.J1.J2.J3.J4.J5.J6.J7.J8.J9.
I90.J1.J2.J3.J4.J5.J6.J7.J8.J9.H500.J1.J2.J3.J4.J5.J6.J7.J8.J9.I10.J1.J2.J3.J4.J5.J6.J7.J8.J9.
I20.J1.J2.J3.J4.J5.J6.J7.J8.J9.I30.J1.J2.J3.J4.J5.J6.J7.J8.J9.I40.J1.J2.J3.J4.J5.J6.J7.J8.J9.
I50.J1.J2.J3.J4.J5.J6.J7.J8.J9.I60.J1.J2.J3.J4.J5.J6.J7.J8.J9.I70.J1.J2.J3.J4.J5.J6.J7.J8.J9.
I80.J1.J2.J3.J4.J5.J6.J7.J8.J9.I90.J1.J2.J3.J4.J5.J6.J7.J8.J9.H600.J1.J2.J3.J4.J5.J6.J7.J8.J9.
I10.J1.J2.J3.J4.J5.J6.J7.J8.J9.I20.J1.J2.J3.J4.J5.J6.J7.J8.J9.I30.J1.J2.J3.J4.J5.J6.J7.J8.J9.
I40.J1.J2.J3.J4.J5.J6.J7.J8.J9.I50.J1.J2.J3.J4.J5.J6.J7.J8.J9.I60.J1.J2.J3.J4.J5.J6.J7.J8.J9.
I70.J1.J2.J3.J4.J5.J6.J7.J8.J9.I80.J1.J2.J3.J4.J5.J6.J7.J8.J9.I90.J1.J2.J3.J4.J5.J6.J7.J8.J9.
H700.J1.J2.J3.J4.J5.J6.J7.J8.J9.I10.J1.J2.J3.J4.J5.J6.J7.J8.J9.I20.J1.J2.J3.J4.J5.J6.J7.J8.J9.
I30.J1.J2.J3.J4.J5.J6.J7.J8.J9.I40.J1.J2.J3.J4.J5.J6.J7.J8.J9.I50.J1.J2.J3.J4.J5.J6.J7.J8.J9.
I60.J1.J2.J3.J4.J5.J6.J7.J8.@1AFF0.0KATAKANA lMINNAN TONE-2.S3.S4.S5.@1AFF5.S7.S8.
NNASALIZED TONE-1.ZNE-2.ZNE-3.ZNE-4.ZNE-5.@1AFFD.ZNE-7.ZNE-8"

end Draftsman.Text.CharacterName
