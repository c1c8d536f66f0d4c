/-
# Draftsman.Text.CharacterName.Alphabets -- the scripts in use, up to U+1FFF

The table is written in the notation of `Draftsman.Text.CharacterName` (version 14 of
the character standard).
-/

namespace Draftsman.Text.CharacterName

set_option autoImplicit false

/-- The names of the characters before U+2000: controls, which have none, and the
scripts that are written with letters and syllables. -/
def alphabets : String :=
  "@20.0SPACE.0EXCLAMAy MARK.0QUOTAy MARK.0NUMBERx.0DOLLARx.0PERCENTx.0AMPERSAND.1POSTROPHE.
0t PARENTHESIS.0h PARENTHESIS.0ASTERISK.0PLUSx.0COMMA.0HYPHEN-MINUS.0FULL STOP.0SOLIDUS.
0DIGIT ZERO.6ONE.6TWO.7HREE.6FOUR.7IVE.6SIX.7EVEN.6EIGHT.6NINE.0COLON.0SEMICOLON.0LESS-THANx.
0EQUALSx.0GREATER-THANx.0QUESy MARK.0COMMERCIAL AT.0LATIN cA.LB.LC.LD.LE.LF.LG.LH.LI.LJ.LK.LL.
LM.LN.LO.LP.LQ.LR.LS.LT.LU.LV.LW.LX.LY.LZ.1EFT SQUARE BRACKET.0REVERSE SOLIDUS.
1IGHT SQUARE BRACKET.0CIRCUMFLEX ACCENT.0LOW LINE.0GRAVE ACCENT.0LATIN sA.JB.JC.JD.JE.JF.JG.JH.
JI.JJ.JK.JL.JM.JN.JO.JP.JQ.JR.JS.JT.JU.JV.JW.JX.JY.JZ.1EFT CURLY BRACKET.0qLINE.
0h CURLY BRACKET.0TILDE.@A0.0NO-BREAK SPACE.0INVERTED EXCLAMAy MARK.0CENTx.0POUNDx.0CURRENCYx.
0YENx.0BROKEN BAR.0SECyx.0DIAERESIS.0COPYhx.0FEMININE oDINAL INDICATo.0t-zdANGLE QUOTAy MARK.
0NOTx.0SOFT HYPHEN.0REGISTEREDx.0MACRON.0DEGREEx.0PLUS-MINUSx.0SUPERSCRIPT TWO.DHREE.
0ACUTE ACCENT.0MICROx.0PILCROWx.0MIDDLE DOT.0CEDILLA.0SUPERSCRIPT ONE.
0MASCULINE oDINAL INDICATo.0h-zdANGLE QUOTAy MARK.0VULGAR FRACy ONE QUARTER.KHALF.
GTHREE QUARTERS.0INVERTED QUESy MARK.0LATIN cAwGRAVE.SACUTE.SCIRCUMFLEX.STILDE.SDIAERESIS.SRge.
ME.LCwCEDILLA.LEwGRAVE.SACUTE.SCIRCUMFLEX.SDIAERESIS.LIwGRAVE.SACUTE.SCIRCUMFLEX.SDIAERESIS.
LETH.LNwTILDE.LOwGRAVE.SACUTE.SCIRCUMFLEX.STILDE.SDIAERESIS.0MULTIPLICAyx.0LATIN cOwSTROKE.
LUwGRAVE.SACUTE.SCIRCUMFLEX.SDIAERESIS.LYwACUTE.LTHoN.6sSHARP S.JAwGRAVE.QACUTE.QCIRCUMFLEX.
QTILDE.QDIAERESIS.QRge.KE.JCwCEDILLA.JEwGRAVE.QACUTE.QCIRCUMFLEX.QDIAERESIS.JIwGRAVE.QACUTE.
QCIRCUMFLEX.QDIAERESIS.JETH.JNwTILDE.JOwGRAVE.QACUTE.QCIRCUMFLEX.QTILDE.QDIAERESIS.0DIVISIONx.
0LATIN sOwSTROKE.JUwGRAVE.QACUTE.QCIRCUMFLEX.QDIAERESIS.JYwACUTE.JTHoN.JYwDIAERESIS.6cAwMACRON.
6sAwMACRON.6cAwBREVE.6sAwBREVE.6cAwOGONEK.6sAwOGONEK.6cCwACUTE.6sCwACUTE.6cCwCIRCUMFLEX.
6sCwCIRCUMFLEX.6cCwDOTe.6sCwDOTe.6cCwCARON.6sCwCARON.6cDwCARON.6sDwCARON.6cDwSTROKE.6sDwSTROKE.
6cEwMACRON.6sEwMACRON.6cEwBREVE.6sEwBREVE.6cEwDOTe.6sEwDOTe.6cEwOGONEK.6sEwOGONEK.6cEwCARON.
6sEwCARON.6cGwCIRCUMFLEX.6sGwCIRCUMFLEX.6cGwBREVE.6sGwBREVE.6cGwDOTe.6sGwDOTe.6cGwCEDILLA.
6sGwCEDILLA.6cHwCIRCUMFLEX.6sHwCIRCUMFLEX.6cHwSTROKE.6sHwSTROKE.6cIwTILDE.6sIwTILDE.6cIwMACRON.
6sIwMACRON.6cIwBREVE.6sIwBREVE.6cIwOGONEK.6sIwOGONEK.6cIwDOTe.6sDOTLESS I.6CAPITAL LIGATURE IJ.
6mLIGATURE IJ.6cJwCIRCUMFLEX.6sJwCIRCUMFLEX.6cKwCEDILLA.6sKwCEDILLA.KRA.6cLwACUTE.6sLwACUTE.
6cLwCEDILLA.6sLwCEDILLA.6cLwCARON.6sLwCARON.6cLwMIDDLE DOT.6sLwMIDDLE DOT.6cLwSTROKE.6sLwSTROKE.
6cNwACUTE.6sNwACUTE.6cNwCEDILLA.6sNwCEDILLA.6cNwCARON.6sNwCARON.LPRECEDED BY APOSTROPHE.6cENG.
6sENG.6cOwMACRON.6sOwMACRON.6cOwBREVE.6sOwBREVE.6cOwdACUTE.6sOwdACUTE.6CAPITAL LIGATURE OE.
6mLIGATURE OE.6cRwACUTE.6sRwACUTE.6cRwCEDILLA.6sRwCEDILLA.6cRwCARON.6sRwCARON.6cSwACUTE.
6sSwACUTE.6cSwCIRCUMFLEX.6sSwCIRCUMFLEX.6cSwCEDILLA.6sSwCEDILLA.6cSwCARON.6sSwCARON.6cTwCEDILLA.
6sTwCEDILLA.6cTwCARON.6sTwCARON.6cTwSTROKE.6sTwSTROKE.6cUwTILDE.6sUwTILDE.6cUwMACRON.6sUwMACRON.
6cUwBREVE.6sUwBREVE.6cUwRge.6sUwRge.6cUwdACUTE.6sUwdACUTE.6cUwOGONEK.6sUwOGONEK.6cWwCIRCUMFLEX.
6sWwCIRCUMFLEX.6cYwCIRCUMFLEX.6sYwCIRCUMFLEX.6cYwDIAERESIS.LZwACUTE.6sZwACUTE.6cZwDOTe.6sZwDOTe.
6cZwCARON.6sZwCARON.JLONG S.JBwSTROKE.6cBwHOOK.STOPBAR.6sBwTOPBAR.6cTONE SIX.6sTONE SIX.
6cOPEN O.LCwHOOK.6sCwHOOK.6cAFRICAN D.LDwHOOK.STOPBAR.6sDwTOPBAR.JTURNED DELTA.6cREVERSED E.
LSCHWA.LOPEN E.LFwHOOK.6sFwHOOK.6cGwHOOK.MAMMA.6sHV.6cIOTA.MwSTROKE.LKwHOOK.6sKwHOOK.JLwBAR.
KAMBDAwSTROKE.6cTURNED M.LNwt HOOK.6sNwLONG h LEG.6cOwMIDDLE TILDE.SHoN.6sOwHoN.6cOI.6sOI.
6cPwHOOK.6sPwHOOK.6lYR.6cTONE TWO.6sTONE TWO.6cESH.6lREVERSED ESH LOOP.6sTwPALATAL HOOK.
6cTwHOOK.6sTwHOOK.6cTwRETROFLEX HOOK.LUwHoN.6sUwHoN.6cUPSILON.LVwHOOK.LYwHOOK.6sYwHOOK.
6cZwSTROKE.6sZwSTROKE.6cEZH.O REVERSED.6sEZH REVERSED.NWITH TAIL.6lTWOwSTROKE.6cTONE FIVE.
6sTONE FIVE.6lINVERTED GLOTTAL STOPwSTROKE.DWYNN.DDENTAL CLICK.DLATERAL CLICK.DALVEOLAR CLICK.
DRETROFLEX CLICK.6cDZwCARON.MwsZwCARON.6sDZwCARON.6cLJ.MwsJ.6sLJ.6cNJ.MwsJ.6sNJ.6cAwCARON.
6sAwCARON.6cIwCARON.6sIwCARON.6cOwCARON.6sOwCARON.6cUwCARON.6sUwCARON.6cUwDIAERESISaMACRON.
6sUwDIAERESISaMACRON.6cUwDIAERESISaACUTE.6sUwDIAERESISaACUTE.6cUwDIAERESISaCARON.
6sUwDIAERESISaCARON.6cUwDIAERESISaGRAVE.6sUwDIAERESISaGRAVE.JTURNED E.6cAwDIAERESISaMACRON.
6sAwDIAERESISaMACRON.6cAwDOTeaMACRON.6sAwDOTeaMACRON.6cAEwMACRON.6sAEwMACRON.6cGwSTROKE.
6sGwSTROKE.6cGwCARON.6sGwCARON.6cKwCARON.6sKwCARON.6cOwOGONEK.6sOwOGONEK.6cOwOGONEKaMACRON.
6sOwOGONEKaMACRON.6cEZHwCARON.6sEZHwCARON.JJwCARON.6cDZ.MwsZ.6sDZ.6cGwACUTE.6sGwACUTE.6cHWAIR.
LWYNN.LNwGRAVE.6sNwGRAVE.6cAwRgeaACUTE.6sAwRgeaACUTE.6cAEwACUTE.6sAEwACUTE.6cOwSTROKEaACUTE.
6sOwSTROKEaACUTE.6cAwdGRAVE.6sAwdGRAVE.6cAwINVERTED BREVE.6sAwINVERTED BREVE.6cEwdGRAVE.
6sEwdGRAVE.6cEwINVERTED BREVE.6sEwINVERTED BREVE.6cIwdGRAVE.6sIwdGRAVE.6cIwINVERTED BREVE.
6sIwINVERTED BREVE.6cOwdGRAVE.6sOwdGRAVE.6cOwINVERTED BREVE.6sOwINVERTED BREVE.6cRwdGRAVE.
6sRwdGRAVE.6cRwINVERTED BREVE.6sRwINVERTED BREVE.6cUwdGRAVE.6sUwdGRAVE.6cUwINVERTED BREVE.
6sUwINVERTED BREVE.6cSwCOMMAb.6sSwCOMMAb.6cTwCOMMAb.6sTwCOMMAb.6cYOGH.6sYOGH.6cHwCARON.
6sHwCARON.6cNwLONG h LEG.6sDwCURL.6cOU.6sOU.6cZwHOOK.6sZwHOOK.6cAwDOTe.6sAwDOTe.6cEwCEDILLA.
6sEwCEDILLA.6cOwDIAERESISaMACRON.6sOwDIAERESISaMACRON.6cOwTILDEaMACRON.6sOwTILDEaMACRON.
6cOwDOTe.6sOwDOTe.6cOwDOTeaMACRON.6sOwDOTeaMACRON.6cYwMACRON.6sYwMACRON.JLwCURL.JNwCURL.JTwCURL.
JDOTLESS J.KB DIGRAPH.JQP DIGRAPH.6cAwSTROKE.LCwSTROKE.6sCwSTROKE.6cLwBAR.LTwDIAGONAL STROKE.
6sSwSWASH TAIL.JZwSWASH TAIL.6cGLOTTAL STOP.6sGLOTTAL STOP.6cBwSTROKE.LU BAR.LTURNED V.
LEwSTROKE.6sEwSTROKE.6cJwSTROKE.6sJwSTROKE.6cmQwHOOK TAIL.6sQwHOOK TAIL.6cRwSTROKE.6sRwSTROKE.
6cYwSTROKE.6sYwSTROKE.JTURNED A.JALPHA.JTURNED ALPHA.JBwHOOK.JOPEN O.JCwCURL.JDwTAIL.QHOOK.
JREVERSED E.JSCHWA.OwHOOK.JOPEN E.JREVERSED OPEN E.YwHOOK.JCLOSED REVERSED OPEN E.
JDOTLESS JwSTROKE.JGwHOOK.JSCRIPT G.6lmCAPITAL G.6sGAMMA.JRAMS HoN.JTURNED H.JHwHOOK.KENGwHOOK.
JIwSTROKE.KOTA.6lmCAPITAL I.6sLwMIDDLE TILDE.QBELT.QRETROFLEX HOOK.KEZH.JTURNED M.RwLONG LEG.
JMwHOOK.JNwt HOOK.QRETROFLEX HOOK.6lmCAPITAL N.6sBARRED O.6lmCAPITAL OE.6sCLOSED OMEGA.JPHI.
JTURNED R.RwLONG LEG.XHOOK.JRwLONG LEG.QTAIL.QFISHHOOK.KEVERSED RwFISHHOOK.6lmCAPITAL R.
RINVERTED R.6sSwHOOK.JESH.JDOTLESS JwSTROKEaHOOK.JSQUAT REVERSED ESH.JESHwCURL.JTURNED T.
KwRETROFLEX HOOK.JU BAR.KPSILON.JVwHOOK.JTURNED V.QW.QY.6lmCAPITAL Y.6sZwRETROFLEX HOOK.QCURL.
JEZH.MwCURL.6lGLOTTAL STOP.DPHARYNGEAL VOICED FRICATIVE.DINVERTED GLOTTAL STOP.DSTRETCHED C.
DBILABIAL CLICK.DmCAPITAL B.6sCLOSED OPEN E.6lmCAPITAL GwHOOK.RH.6sJwCROSSED-TAIL.JTURNED K.
6lmCAPITAL L.6sQwHOOK.6lGLOTTAL STOPwSTROKE.DREVERSED GLOTTAL STOPwSTROKE.6sDZ DIGRAPH.
KEZH DIGRAPH.KZ DIGRAPHwCURL.JTS DIGRAPH.KESH DIGRAPH.KC DIGRAPHwCURL.JFENG DIGRAPH.JLS DIGRAPH.
KZ DIGRAPH.6lBILABIAL PERCUSSIVE.FDENTAL PERCUSSIVE.6sTURNED HwFISHHOOK.ZSHHOOKaTAIL.
0MODIFIER lmH.NwHOOK.MJ.MR.MTURNED R.UwHOOK.MCAPITAL INVERTED R.MW.MY.GPRIME.GdPRIME.
GTURNED COMMA.GAPOSTROPHE.GREVERSED COMMA.HIGHT HALF Rg.Gt HALF Rg.GGLOTTAL STOP.
GREVERSED GLOTTAL STOP.Gt rHEAD.Gh rHEAD.GUP rHEAD.GDOWN rHEAD.GCIRCUMFLEX ACCENT.0CARON.
0MODIFIER lqLINE.GMACRON.GACUTE ACCENT.GGRAVE ACCENT.GLOW qLINE.KMACRON.KGRAVE ACCENT.
KACUTE ACCENT.GTRIANGULAR COLON.GHALF TRIANGULAR COLON.GCENTRED h HALF Rg.Ot HALF Rg.GUP TACK.
GDOWN TACK.GPLUSx.GMINUSx.0BREVE.0DOTe.0Rge.0OGONEK.0mTILDE.0dACUTE ACCENT.
0MODIFIER lRHOTIC HOOK.GCROSS ACCENT.GmGAMMA.ML.MS.MX.MREVERSED GLOTTAL STOP.
GEXTRA-HIGH TONE BAR.GHIGH TONE BAR.GMID TONE BAR.GLOW TONE BAR.GEXTRA-LOW TONE BAR.
GYIN DEPARTg TONE MARK.HANG DEPARTg TONE MARK.GVOICg.GUNASPIRATED.GdAPOSTROPHE.GLOW DOWN rHEAD.
KUP rHEAD.Kt rHEAD.Kh rHEAD.MNG.GMIDDLE GRAVE ACCENT.NdGRAVE ACCENT.UACUTE ACCENT.GLOW TILDE.
GRAISED COLON.GBEGIN HIGH TONE.GEND HIGH TONE.GBEGIN LOW TONE.GEND LOW TONE.GSHELF.GOPEN SHELF.
GLOW t r.0COMBINg GRAVE ACCENT.AACUTE ACCENT.ACIRCUMFLEX ACCENT.ATILDE.AMACRON.AOVERLINE.ABREVE.
ADOTe.BIAERESIS.AHOOKe.ARge.AdACUTE ACCENT.ACARON.AqLINEe.AdqLINEe.HGRAVE ACCENT.ACANDRABINDU.
AINVERTED BREVE.ATURNED COMMAe.ACOMMAe.AREVERSED COMMAe.ACOMMAe h.AGRAVE ACCENTb.AACUTE ACCENTb.
At TACKb.Ah TACKb.At ANGLEe.AHoN.At HALF Rgb.AUP TACKb.ADOWN TACKb.APLUSxb.AMINUSxb.
APALATALIZED HOOKb.ARETROFLEX HOOKb.ADOTb.BIAERESISb.ARgb.ACOMMAb.BEDILLA.AOGONEK.AqLINEb.
ABRIDGEb.AINVERTED dARCHb.ACARONb.BIRCUMFLEX ACCENTb.ABREVEb.AINVERTED BREVEb.ATILDEb.AMACRONb.
ALOW LINE.AdLOW LINE.ATILDE OVERLAY.ASHoT STROKE OVERLAY.ALONG STROKE OVERLAY.
ASHoT SOLIDUS OVERLAY.ALONG SOLIDUS OVERLAY.Ah HALF Rgb.AINVERTED BRIDGEb.ASQUAREb.BEAGULLb.AXe.
AqTILDE.AdOVERLINE.AGRAVE TONE MARK.AACUTE TONE MARK.AGREEK PERISPOMENI.GKoONIS.
GDIALYTIKA TONOS.GYPOGEGRAMMENI.ABRIDGEe.AEQUALSxb.AdqLINEb.At ANGLEb.ANOT TILDEe.AHOMOTHETICe.
AALMOST EQUAL TOe.At h rb.AUPurb.AGRAPHEME JOINER.Ah rHEADe.At HALF Rge.AFERMATA.AXb.At rHEADb.
Ah rHEADb.QAND UP rHEADb.GHALF Rge.ADOTe h.AASTERISKb.AdRgb.AZIGZAGe.AdBREVEb.M.HMACRON.Nb.
HTILDE.HINVERTED BREVE.Hhurb.ALATIN sA.TE.TI.TO.TU.TC.TD.TH.TM.TR.TT.TV.TX.0GREEK cHETA.6sHETA.
6cARCHAIC SAMPI.6sARCHAIC SAMPI.6NUMERALx.6LOWER NUMERALx.6cPAMPHYLIAN DIGAMMA.
6sPAMPHYLIAN DIGAMMA.@37A.6YPOGEGRAMMENI.6mREVERSED LUNATE SIGMAp.CDOTTED LUNATE SIGMAp.
CREVERSED DOTTED LUNATE SIGMAp.6QUESy MARK.6cYOT.@384.6TONOS.6DIALYTIKA TONOS.6cALPHAwTONOS.
6ANO TELEIA.6cEPSILONwTONOS.MTAwTONOS.LIOTAwTONOS.@38C.LOMICRONwTONOS.@38E.LUPSILONwTONOS.
LOMEGAwTONOS.6sIOTAwDIALYTIKAaTONOS.6cALPHA.LBETA.LGAMMA.LDELTA.LEPSILON.LZETA.LETA.LTHETA.
LIOTA.LKAPPA.LLAMDA.LMU.LNU.LXI.LOMICRON.LPI.LRHO.@3A3.LSIGMA.LTAU.LUPSILON.LPHI.LCHI.LPSI.
LOMEGA.LIOTAwDIALYTIKA.LUPSILONwDIALYTIKA.6sALPHAwTONOS.JEPSILONwTONOS.KTAwTONOS.JIOTAwTONOS.
JUPSILONwDIALYTIKAaTONOS.JALPHA.JBETA.JGAMMA.JDELTA.JEPSILON.JZETA.JETA.JTHETA.JIOTA.JKAPPA.
JLAMDA.JMU.JNU.JXI.JOMICRON.JPI.JRHO.JFINAL SIGMA.JSIGMA.JTAU.JUPSILON.JPHI.JCHI.JPSI.JOMEGA.
JIOTAwDIALYTIKA.JUPSILONwDIALYTIKA.JOMICRONwTONOS.JUPSILONwTONOS.JOMEGAwTONOS.6CAPITAL KAIp.
6BETAp.6THETAp.6UPSILONwHOOKp.JACUTEaHOOKp.JDIAERESISaHOOKp.6PHIp.7Ip.6KAIp.6lARCHAIC KOPPA.
6sARCHAIC KOPPA.6lSTIGMA.6sSTIGMA.6lDIGAMMA.6sDIGAMMA.6lKOPPA.6sKOPPA.6lSAMPI.6sSAMPI.
0COPTIC cSHEI.7sSHEI.7cFEI.7sFEI.7cKHEI.7sKHEI.7cHoI.7sHoI.7cGANGIA.7sGANGIA.7cSHIMA.7sSHIMA.
7cDEI.7sDEI.0GREEK KAPPAp.6RHOp.6LUNATE SIGMAp.7ETTER YOT.6CAPITAL THETAp.6LUNATE EPSILONp.
6REVERSED LUNATE EPSILONp.6cSHO.6sSHO.6CAPITAL LUNATE SIGMAp.FETTER SAN.6sSAN.6RHOwSTROKEp.
6CAPITAL REVERSED LUNATE SIGMAp.EDOTTED LUNATE SIGMAp.EREVERSED DOTTED LUNATE SIGMAp.
0CYRILLIC cIEwGRAVE.PO.ODJE.OGJE.OUKRAINIAN IE.ODZE.OBYELoUSSIAN-UKRAINIAN I.OYI.OJE.OLJE.ONJE.
OTSHE.OKJE.OIwGRAVE.OSHoT U.ODZHE.OA.OBE.OVE.OGHE.ODE.OIE.OZHE.PE.OI.OSHoT I.OKA.OEL.PM.PN.OO.
OPE.OER.PS.OTE.OU.OEF.OHA.OTSE.OCHE.OSHA.QCHA.OHARDx.OYERU.OSOFTx.OE.OYU.PA.9sA.MBE.MVE.MGHE.
MDE.MIE.MZHE.NE.MI.MSHoT I.MKA.MEL.NM.NN.MO.MPE.MER.NS.MTE.MU.MEF.MHA.MTSE.MCHE.MSHA.OCHA.
MHARDx.MYERU.MSOFTx.ME.MYU.NA.MIEwGRAVE.NO.MDJE.MGJE.MUKRAINIAN IE.MDZE.
MBYELoUSSIAN-UKRAINIAN I.MYI.MJE.MLJE.MNJE.MTSHE.MKJE.MIwGRAVE.MSHoT U.MDZHE.9cOMEGA.9sOMEGA.
9cYAT.9sYAT.9cIOTIFIED E.9sIOTIFIED E.9cLITTLE YUS.9sLITTLE YUS.9cIOTIFIED LITTLE YUS.
9sIOTIFIED LITTLE YUS.9cBIG YUS.9sBIG YUS.9cIOTIFIED BIG YUS.9sIOTIFIED BIG YUS.9cKSI.9sKSI.
9cPSI.9sPSI.9cFITA.9sFITA.9cIZHITSA.9sIZHITSA.9cIZHITSAwdGRAVE ACCENT.9sIZHITSAwdGRAVE ACCENT.
9cUK.9sUK.9cROUND OMEGA.9sROUND OMEGA.9cOMEGAwTITLO.9sOMEGAwTITLO.9cOT.9sOT.9cKOPPA.9sKOPPA.
9THOUSANDSx.1OMBINg CYRILLIC TITLO.JPALATALIZAy.JDASIA PNEUMATA.JPSILI PNEUMATA.KOKRYTIE.
JHUNDRED THOUSANDSx.JMILLIONSx.1YRILLIC cSHoT IwTAIL.9sSHoT IwTAIL.9cSEMISOFTx.9sSEMISOFTx.
9cERwTICK.9sERwTICK.9cGHEwUPTURN.9sGHEwUPTURN.9cGHEwSTROKE.9sGHEwSTROKE.9cGHEwMIDDLE HOOK.
9sGHEwMIDDLE HOOK.9cZHEwDESCENDER.9sZHEwDESCENDER.9cZEwDESCENDER.9sZEwDESCENDER.9cKAwDESCENDER.
9sKAwDESCENDER.9cKAwqSTROKE.9sKAwqSTROKE.9cKAwSTROKE.9sKAwSTROKE.9cBASHKIR KA.9sBASHKIR KA.
9cENwDESCENDER.9sENwDESCENDER.9CAPITAL LIGATURE EN GHE.9mLIGATURE EN GHE.9cPEwMIDDLE HOOK.
9sPEwMIDDLE HOOK.9cABKHASIAN HA.9sABKHASIAN HA.9cESwDESCENDER.9sESwDESCENDER.9cTEwDESCENDER.
9sTEwDESCENDER.9cSTRAIGHT U.9sSTRAIGHT U.9cSTRAIGHT UwSTROKE.9sSTRAIGHT UwSTROKE.9cHAwDESCENDER.
9sHAwDESCENDER.9CAPITAL LIGATURE TE TSE.9mLIGATURE TE TSE.9cCHEwDESCENDER.9sCHEwDESCENDER.
9cCHEwqSTROKE.9sCHEwqSTROKE.9cSHHA.9sSHHA.9cABKHASIAN CHE.9sABKHASIAN CHE.
9cABKHASIAN CHEwDESCENDER.9sABKHASIAN CHEwDESCENDER.9lPALOCHKA.9cZHEwBREVE.9sZHEwBREVE.
9cKAwHOOK.9sKAwHOOK.9cELwTAIL.9sELwTAIL.9cENwHOOK.9sENwHOOK.9cENwTAIL.9sENwTAIL.
9cKHAKASSIAN CHE.9sKHAKASSIAN CHE.9cEMwTAIL.9sEMwTAIL.MPALOCHKA.9cAwBREVE.9sAwBREVE.
9cAwDIAERESIS.9sAwDIAERESIS.9CAPITAL LIGATURE A IE.9mLIGATURE A IE.9cIEwBREVE.9sIEwBREVE.
9cSCHWA.9sSCHWA.9cSCHWAwDIAERESIS.9sSCHWAwDIAERESIS.9cZHEwDIAERESIS.9sZHEwDIAERESIS.
9cZEwDIAERESIS.9sZEwDIAERESIS.9cABKHASIAN DZE.9sABKHASIAN DZE.9cIwMACRON.9sIwMACRON.
9cIwDIAERESIS.9sIwDIAERESIS.9cOwDIAERESIS.9sOwDIAERESIS.9cBARRED O.9sBARRED O.
9cBARRED OwDIAERESIS.9sBARRED OwDIAERESIS.9cEwDIAERESIS.9sEwDIAERESIS.9cUwMACRON.9sUwMACRON.
9cUwDIAERESIS.9sUwDIAERESIS.9cUwdACUTE.9sUwdACUTE.9cCHEwDIAERESIS.9sCHEwDIAERESIS.
9cGHEwDESCENDER.9sGHEwDESCENDER.9cYERUwDIAERESIS.9sYERUwDIAERESIS.9cGHEwSTROKEaHOOK.
9sGHEwSTROKEaHOOK.9cHAwHOOK.9sHAwHOOK.9cHAwSTROKE.9sHAwSTROKE.9cKOMI DE.9sKOMI DE.9cKOMI DJE.
9sKOMI DJE.9cKOMI ZJE.9sKOMI ZJE.9cKOMI DZJE.9sKOMI DZJE.9cKOMI LJE.9sKOMI LJE.9cKOMI NJE.
9sKOMI NJE.9cKOMI SJE.9sKOMI SJE.9cKOMI TJE.9sKOMI TJE.9cREVERSED ZE.9sREVERSED ZE.9cELwHOOK.
9sELwHOOK.9cLHA.9sLHA.9cRHA.9sRHA.9cYAE.9sYAE.9cQA.9sQA.9cWE.9sWE.9cALEUT KA.9sALEUT KA.
9cELwMIDDLE HOOK.9sELwMIDDLE HOOK.9cENwMIDDLE HOOK.9sENwMIDDLE HOOK.9cPEwDESCENDER.
9sPEwDESCENDER.9cSHHAwDESCENDER.9sSHHAwDESCENDER.9cENwt HOOK.9sENwt HOOK.9cDZZHE.9sDZZHE.9cDCHE.
9sDCHE.9cELwDESCENDER.9sELwDESCENDER.@531.0ARMENIAN cAYB.OBEN.OGIM.ODA.OECH.OZA.OEH.PT.OTO.OZHE.
OINI.OLIWN.OXEH.OCA.OKEN.OHO.OJA.OGHAD.OCHEH.OMEN.OYI.ONOW.OSHA.OVO.OCHA.OPEH.OJHEH.ORA.OSEH.
OVEW.OTIWN.OREH.OCO.OYIWN.OPIWR.OKEH.OOH.OFEH.@559.9MODIFIER lt HALF Rg.9APOSTROPHE.
9EMPHASIS MARK.AXCLAMAy MARK.9COMMA.9QUESy MARK.9ABBREVIAy MARK.9sTURNED AYB.MAYB.MBEN.MGIM.MDA.
MECH.MZA.MEH.NT.MTO.MZHE.MINI.MLIWN.MXEH.MCA.MKEN.MHO.MJA.MGHAD.MCHEH.MMEN.MYI.MNOW.MSHA.MVO.
MCHA.MPEH.MJHEH.MRA.MSEH.MVEW.MTIWN.MREH.MCO.MYIWN.MPIWR.MKEH.MOH.MFEH.GIGATURE ECH YIWN.
GETTER YIwSTROKE.9FULL STOP.9HYPHEN.@58D.0h-FACg ARMENIAN ETERNITYx.0t-FACg ARMENIAN ETERNITYx.
0ARMENIAN DRAMx.@591.0HEBREW ACCENT ETNAHTA.ESEGOL.FHALSHELET.EZAQEF QATAN.KGADOL.ETIPEHA.
EREVIA.EZARQA.EPASHTA.EYETIV.ETEVIR.EGERESH.K MUQDAM.HSHAYIM.EQARNEY PARA.ETELISHA GEDOLA.
EPAZER.EATNAH HAFUKH.EMUNAH.FAHAPAKH.FERKHA.K KEFULA.EDARGA.EQADMA.ETELISHA QETANA.
EYERAH BEN YOMO.EOLE.EILUY.EDEHI.EZINo.7MARK MASoA n.7POINT SHEVA.DHATAF SEGOL.JPATAH.JQAMATS.
EIRIQ.DTSERE.DSEGOL.DPATAH.DQAMATS.DHOLAM.I HASER Fo VAV.DQUBUTS.DDAGESH o MAPIQ.DMETEG.
8UNCTUAy MAQAF.8OINT RAFE.8UNCTUAy PASEQ.8OINT SHIN DOT.EIN DOT.8UNCTUAy SOF PASUQ.
7MARK UPPER DOT.CLOWER DOT.7PUNCTUAy NUN HAFUKHA.8OINT QAMATS QATAN.@5D0.7lALEF.EBET.EGIMEL.
EDALET.EHE.EVAV.EZAYIN.EHET.ETET.EYOD.EFINAL KAF.EKAF.ELAMED.EFINAL MEM.EMEM.EFINAL NUN.ENUN.
ESAMEKH.EAYIN.EFINAL PE.EPE.EFINAL TSADI.ETSADI.EQOF.ERESH.ESHIN.ETAV.@5EF.7YOD k.
7LIGATURE YIDDISH dVAV.OVAV YOD.OdYOD.7PUNCTUAy GERESH.MSHAYIM.@600.0ARABIC NUMBERx.7SIGN SANAH.
7FOOTNOTE MARKER.7SIGN SAFHA.EMVAT.7NUMBER MARKe.6-INDIC CUBE ROOT.DFOURTH ROOT.6 RAY.
6-INDIC PER MILLEx.HTEN THOUSANDx.1FGHANIx.1RABIC COMMA.7DATE SEPARATo.7POETIC VERSEx.
7SIGN MISRA.CSALLALLAHOU ALAYHE WASSALLAM.CALAYHE ASSALLAM.CRAHMATULLAH ALAYHE.EDI ALLAHOU ANHU.
CTAKHALLUS.8MALL HIGH TAH.ILIGATURE ALEFwLAMwYEH.IZAIN.DFATHA.DDAMMA.DKASRA.8EMICOLON.7lMARK.
7END OF TEXT MARK.7TRIPLE DOT PUNCTUAy MARK.7QUESy MARK.7lKASHMIRI YEH.EHAMZA.EALEFwMADDAe.
OHAMZAe.EWAWwHAMZAe.EALEFwHAMZAb.EYEHwHAMZAe.EALEF.EBEH.ETEH MARBUTA.H.FHEH.EJEEM.EHAH.EKHAH.
EDAL.ETHAL.EREH.EZAIN.ESEEN.FHEEN.FAD.EDAD.ETAH.EZAH.EAIN.EGHAIN.EKEHEHwTWO DOTSe.QHREE DOTSb.
EFARSI YEHwINVERTED V.TTWO DOTSe.UHREE DOTSe.7TATWEEL.7lFEH.EQAF.EKAF.ELAM.EMEEM.ENOON.EHEH.
EWAW.EALEF MAKSURA.EYEH.7FATHATAN.7DAMMATAN.7KASRATAN.7FATHA.7DAMMA.7KASRA.7SHADDA.8UKUN.
7MADDAHe.7HAMZAe.DBELOW.7SUBSCRIPT ALEF.7INVERTED DAMMA.7MARK NOON GHUNNA.7ZWARAKAY.7vmVe.
IINVERTED mVe.IDOTb.7REVERSED DAMMA.7FATHAwTWO DOTS.7WAVY HAMZAb.6-INDIC DIGIT ZERO.JONE.JTWO.
KHREE.JFOUR.KIVE.JSIX.KEVEN.JEIGHT.JNINE.6 PERCENTx.7DECIMAL SEPARATo.7THOUSANDS SEPARATo.
7FIVE POINTED STAR.7lDOTLESS BEH.MQAF.ESUPERSCRIPT ALEF.EALEF WASLA.KITH WAVY HAMZAe.ZBELOW.
EHIGH HAMZA.O ALEF.PWAW.EUwHAMZAe.EHIGH HAMZA YEH.ETTEH.IEH.EBEEH.ETEHwRg.
NTHREE DOTSe DOWNWARDS.EPEH.ETEHEH.EBEHEH.EHAHwHAMZAe.NTWO DOTS qABOVE.ENYEH.EDYEH.
EHAHwTHREE DOTSe.ETCHEH.JEH.EDDAL.FALwRg.NDOTb.WamTAH.GHAL.FDAHAL.FUL.FALwTHREE DOTSe DOWNWARDS.
NFOUR DOTSe.ERREH.FEHwmV.NRg.NDOTb.NmVb.NDOTbaDOTe.NTWO DOTSe.EJEH.EREHwFOUR DOTSe.
ESEENwDOTbaDOTe.OTHREE DOTSb.ZBELOWaTHREE DOTSe.FADwTWO DOTSb.OHREE DOTSe.ETAHwTHREE DOTSe.
EAINwTHREE DOTSe.EDOTLESS FEH.EFEHwDOT MOVEDb.RBELOW.EVEH.EFEHwTHREE DOTSb.EPEHEH.EQAFwDOTe.
NTHREE DOTSe.EKEHEH.ESWASH KAF.EKAFwRg.NDOTe.ENG.EKAFwTHREE DOTSb.EGAF.HwRg.ENGOEH.
EGAFwTWO DOTSb.FUEH.FAFwTHREE DOTSe.ELAMwmV.NDOTe.NTHREE DOTSe.YBELOW.ENOONwDOTb.JGHUNNA.ERNOON.
ENOONwRg.OTHREE DOTSe.EHEH DOACHASHMEE.ETCHEHwDOTe.EHEHwYEHe.IGOAL.MwHAMZAe.ETEH MARBUTA GOAL.
EWAWwRg.EKIRGHIZ OE.EOE.EU.EYU.EKIRGHIZ YU.EWAWwTWO DOTSe.EVE.EFARSI YEH.EYEHwTAIL.NmV.
EWAWwDOTe.EE.EYEHwTHREE DOTSb.IBARREE.OwHAMZAe.7FULL STOP.7lAE.
7mHIGH LIGATURE SADwLAMwALEF MAKSURA.RQAFwLAMwALEF MAKSURA.IMEEM j.ILAM ALEF.IJEEM.ITHREE DOTS.
ISEEN.7END OF AYAH.7START OF RUB EL HIZB.8MALL HIGH ROUNDED ZERO.IUPh RECTANGULAR ZERO.
IDOTLESS HEAD OF KHAH.IMEEMi.DLOW SEEN.DHIGH MADDA.DWAW.DYEH.DHIGH YEH.INOON.7PLACE OF SAJDAH.
7EMPTY CENTRE LOW STOP.KHIGH STOP.7ROUNDED HIGH STOPwFILLED CENTRE.7mLOW MEEM.7lDALwINVERTED V.
EREHwINVERTED V.0EXTENDED ARABIC-INDIC DIGIT ZERO.SONE.STWO.THREE.SFOUR.TIVE.SSIX.TEVEN.SEIGHT.
SNINE.0ARABIC lSHEENwDOTb.EDADwDOTb.EGHAINwDOTb.7SIGN SINDHI AMPERSAND.JPOSTPOSIy MEN.
7lHEHwINVERTED V.0SYRIAC END OF PARAGRAPH.7SUPRALINEAR FULL STOP.9BLINEAR FULL STOP.
9PRALINEAR COLON.9BLINEAR COLON.7HoIZONTAL COLON.7COLON SKEWED t.Kh.7SUPRALINEAR COLON SKEWED t.
9BLINEAR COLON SKEWED h.7CONTRACy.7HARKLEAN OBELUS.GMETOBELUS.GASTERISCUS.@70F.7ABBREVIAy MARK.
7lALAPH.ESUPERSCRIPT ALAPH.EBETH.EGAMAL.J GARSHUNI.EDALATH.FOTLESS DALATH RISH.EHE.EWAW.EZAIN.
EHETH.ETETH.I GARSHUNI.EYUDH.I HE.EKAPH.ELAMADH.EMIM.ENUN.ESEMKATH.EFINAL SEMKATH.EE.EPE.
EREVERSED PE.ESADHE.EQAPH.ERISH.ESHIN.ETAW.EPERSIAN BHETH.MGHAMAL.MDHALATH.7PTHAHAe.EBELOW.
EDOTTED.7ZQAPHAe.EBELOW.EDOTTED.7RBASAe.DBELOW.7DOTTED ZLAMA HoIZONTAL.KANGULAR.7HBASAe.DBELOW.
C-ESASA DOTTED.7ESASAe.DBELOW.7RWAHA.7FEMININE DOT.7QUSHSHAYA.7RUKKAKHA.7TWO qDOTSe.PBELOW.
8HREE DOTSe.IBELOW.7OBLIQUE LINEe.KBELOW.7MUSIC.7BARREKH.@74D.7lSOGDIAN ZHAIN.MKHAPH.MFE.
0ARABIC lBEHwTHREE DOTS HoIZONTALLYb.NDOTbaTHREE DOTSe.NTHREE DOTS zUPWARDSb.
ZOINTg UPWARDSbaTWO DOTSe.OWO DOTSbaDOTe.NINVERTED mVb.NmV.EHAHwTWO DOTSe.OHREE DOTS zUPWARDSb.
EDALwTWO DOTS VERTICALLYbamTAH.NINVERTED mVb.EREHwSTROKE.ESEENwFOUR DOTSe.EAINwTWO DOTSe.
OHREE DOTS zDOWNWARDSe.OWO DOTS VERTICALLYe.EFEHwTWO DOTSb.OHREE DOTS zUPWARDSb.EKEHEHwDOTe.
PTHREE DOTSe.Z zUPWARDSb.EMEEMwDOTe.SBELOW.ENOONwTWO DOTSb.OmTAH.UV.ELAMwBAR.
EREHwTWO DOTS VERTICALLYe.NHAMZAe.ESEENwTWO DOTS VERTICALLYe.EHAHwmARABIC lTAHb.Z lTAHaTWO DOTS.
ESEENwmARABIC lTAHaTWO DOTS.EREHwmARABIC lTAHaTWO DOTS.EHAHwmARABIC lTAHe.
EALEFwEXTENDED ARABIC-INDIC DIGIT TWOe.ZABIC-INDIC DIGIT THREEe.
EFARSI YEHwEXTENDED ARABIC-INDIC DIGIT TWOe.ZED ARABIC-INDIC DIGIT THREEe.
ZED ARABIC-INDIC DIGIT FOURb.EWAWwEXTENDED ARABIC-INDIC DIGIT TWOe.ZBIC-INDIC DIGIT THREEe.
EYEH BARREEwEXTENDED ARABIC-INDIC DIGIT TWOe.ZDED ARABIC-INDIC DIGIT THREEe.
EHAHwEXTENDED ARABIC-INDIC DIGIT FOURb.ESEENwEXTENDED ARABIC-INDIC DIGIT FOURe.OINVERTED V.
EKAFwTWO DOTSe.0THAANA lHAA.ESHAVIYANI.ENOONU.ERAA.EBAA.ELHAVIYANI.EKAAFU.EALIFU.EVAAVU.EMEEMU.
EFAAFU.EDHAALU.ETHAA.ELAAMU.EGAAFU.FNAVIYANI.ESEENU.EDAVIYANI.EZAVIYANI.ETAVIYANI.EYAA.
EPAVIYANI.EJAVIYANI.ECHAVIYANI.ETTAA.EHHAA.EKHAA.ETHAALU.EZAA.ESHEENU.FAADHU.EDAADHU.ETO.EZO.
EAINU.EGHAINU.EQAAFU.EWAAVU.7ABAFILI.8ABAAFILI.7IBIFILI.7EEBEEFILI.7UBUFILI.7OOBOOFILI.7EBEFILI.
8YBEYFILI.7OBOFILI.8ABOAFILI.7SUKUN.7lNAA.@7C0.0NKO DIGIT ZERO.AONE.ATWO.BHREE.AFOUR.BIVE.ASIX.
BEVEN.AEIGHT.ANINE.4lA.BEE.BI.BE.BU.BOO.C.BDAGBASINNA.BN.BBA.BPA.BTA.BJA.BCHA.BDA.BRA.CRA.BSA.
BGBA.BFA.BKA.BLA.BNA WOLOSO.BMA.BNYA.CA.BHA.BWA.BYA.BNYA WOLOSO.BJONA JA.GCHA.GRA.
4COMBINg SHoT HIGH TONE.KLOW TONE.KRISg TONE.ELONG DESCENDg TONE.JHIGH TONE.JLOW TONE.
JRISg TONE.ENASALIZAy MARK.EdDOTe.4HIGH TONE APOSTROPHE.4LOW TONE APOSTROPHE.4SYMBOL OO DENNEN.
BGBAKURUNEN.4COMMA.4EXCLAMAy MARK.4LAJANYALAN.@7FD.4DANTAYALAN.5oOMEx.4TAMANx.0SAMARITAN lALAF.
HBIT.HGAMAN.HDALAT.HIY.HBAA.HZEN.HIT.HTIT.HYUT.HKAAF.HLABAT.HMIM.HNUN.HSgAAT.HIN.HFI.HTSAADIY.
HQUF.HRISH.HSHAN.HTAAF.AMARK IN.H-ALAF.FOCCLUSION.FDAGESH.BODIFIER lEPENTHETIC YUT.
BARK EPENTHETIC YUT.AvLONG E.LE.LOVERLONG AA.LLONG AA.LAA.LOVERLONG A.LLONG A.LA.
AMODIFIER lSHoT A.AvSHoT A.LLONG U.LU.AMODIFIER lI.AvLONG I.LI.LO.LSUKUN.AMARK NEQUDAA.@830.
APUNCTUAy NEQUDAA.MAFSAAQ.NNGED.MBAU.MATMAAU.MSHIYYAALAA.AABBREVIAy MARK.
APUNCTUAy MELODIC QITSA.MZIQAA.MQITSA.MZAEF.MTURU.MARKAANU.MSOF MASHFAAT.MANNAAU.@840.
0MANDAIC lHALQA.FAB.GG.GD.GH.FUSHENNA.FAZ.FIT.FATT.GKSA.H.GL.GM.GN.GS.FIN.FAP.GSZ.GQ.GR.GSH.GT.
FDUSHENNA.FKAD.FAIN.8AFFRICAy MARK.8VOCALIZAy MARK.8GEMINAy MARK.@85E.8PUNCTUAy.@860.
0SYRIAC lMALAYALAM NGA.OJA.ONYA.OTTA.ONNA.QNA.OBHA.ORA.OLLA.QLA.OSSA.@870.
0ARABIC lALEFwATTACHED FATHA.XTOP h FATHA.Oh MIDDLE STROKE.Ot MIDDLE STROKE.OATTACHED KASRA.
XBOTTOM h KASRA.XROUND DOTe.YIGHT ROUND DOT.Xt ROUND DOT.XROUND DOTb.ODOTe.
OATTACHED TOP h FATHAaDOTe.Oh MIDDLE STROKEaDOTe.OATTACHED BOTTOM h KASRAaDOTe.
XTOP h FATHAat Rg.Oh MIDDLE STROKEat Rg.OATTACHED BOTTOM h KASRAat Rg.Xh HAMZA.Xt HAMZA.
7TATWEELwOVERSTRUCK HAMZA.VWAW.KTWO DOTSb.7lTHIN YEH.7BASELINE ROUND DOT.7RAISED ROUND DOT.
7lNOONwINVERTED mV.EHAHwINVERTED mVb.ETAHwDOTb.NTHREE DOTSb.EKEHEHwTWO DOTS VERTICALLYb.7qTAIL.
@890.7POUND MARKe.8IASTRE MARKe.@898.7mHIGH WoD AL-JUZ.DLOW WoD ISHMAAM.NMAALA.MTASHEEL.
7MADDA WAAJIB.7SUPERSCRIPT ALEF MOKHASSAS.7DOUBLED MADDA.7HALF MADDA OVER MADDA.7lBEHwmVb.
NHAMZAe.EJEEMwTWO DOTSe.ETAHwTWO DOTSe.EFEHwDOTbaTHREE DOTSe.EQAFwDOTb.ELAMwdBAR.
EMEEMwTHREE DOTSe.EYEHwTWO DOTSbaHAMZAe.ZOWaDOTe.EREHwLOOP.EWAWwDOT WITHIN.EROHgYA YEH.
ELOW ALEF.EDALwTHREE DOTSb.ESADwTHREE DOTSb.EGAFwINVERTED STROKE.ESTRAIGHT WAW.
EZAINwINVERTED Ve.EAINwTHREE DOTSb.EKAFwDOTb.EQAFwDOTbaNO DOTSe.EBEHwmMEEMe.EPEHwmMEEMe.
ETEHwmTEHe.EREHwmNOONe.EYEHwTWO DOTSbamNOONe.EAFRICAN FEH.MQAF.MNOON.EPEHwmV.ETEHwmV.FTEHwmV.
FCHEHwmV.EKEHEHwmV.EGHAINwTHREE DOTSe.EAFRICAN QAFwTHREE DOTSe.EJEEMwTHREE DOTSe.ZBELOW.
ELAMwmARABIC lTAHe.EGRAF.7mFARSI YEH.DHIGH FARSI YEH.IYEH BARREEwTWO DOTSb.IWoD SAH.IZAH.
7LARGE ROUND DOTe.NBELOW.7SUKUNb.7LARGE nb.DROUND DOT INSIDE nb.7mLOW WAW.DHIGH WoD AR-RUB.ISAD.
IAIN.IQAF.INOONwKASRA.DLOW NOONwKASRA.DHIGH WoD ATH-THALATHA.OS-SAJDA.ON-NISF.NSAKTA.NQIF.
NWAQFA.IFOOTNOTE MARKER.ISIGN SAFHA.7DISPUTED END OF AYAH.7TURNED DAMMAb.7CURLY FATHA.DDAMMA.
DKASRA.DFATHATAN.DDAMMATAN.DKASRATAN.7TONE ONE DOTe.CTWO DOTSe.CLOOPe.CONE DOTb.CTWO DOTSb.
CLOOPb.7OPEN FATHATAN.CDAMMATAN.CKASRATAN.7mHIGH WAW.7FATHAwRg.IDOTe.7KASRAwDOTb.7t rHEADe.
7h rHEADe.7t rHEADb.7h rHEADb.7dh rHEADe.ZwDOT.7h rHEADewDOT.7DAMMAwDOT.
7MARK SIDEWAYS NOON GHUNNA.0DEVANAGARIx INVERTED CANDRABINDU.GCANDRABINDU.GANUSVARA.GVISARGA.
BlSHoT A.IA.JA.II.JI.IU.JU.IVOCALIC R.QL.ICANDRA E.ISHoT E.IE.IAI.ICANDRA O.ISHoT O.IO.IAU.IKA.
JHA.IGA.JHA.INGA.ICA.JHA.IJA.JHA.INYA.ITTA.KHA.IDDA.KHA.INNA.ITA.JHA.IDA.JHA.INA.JNNA.IPA.JHA.
IBA.JHA.IMA.IYA.IRA.JRA.ILA.JLA.KLA.IVA.ISHA.JSA.JA.IHA.BvOE.NOE.BSIGN NUKTA.GAVAGRAHA.BvAA.MI.
NI.MU.NU.MVOCALIC R.VR.MCANDRA E.MSHoT E.ME.MAI.MCANDRA O.MSHoT O.MO.MAU.BSIGN VIRAMA.
BvPRISHTHAMATRA E.MAW.BOM.BSTRESSx UDATTA.NANUDATTA.BGRAVE ACCENT.BACUTE ACCENT.BvCANDRA LONG E.
MUE.NUE.BlQA.IKHHA.IGHHA.IZA.IDDDHA.IRHA.IFA.IYYA.IVOCALIC RR.QLL.BvVOCALIC L.VL.BDANDA.
COUBLE DANDA.CIGIT ZERO.HONE.HTWO.IHREE.HFOUR.IIVE.HSIX.IEVEN.HEIGHT.HNINE.BABBREVIAyx.
BSIGN HIGH SPACg DOT.BlCANDRA A.IOE.JOE.IAW.IUE.JUE.IMARWARI DDA.IZHA.IHEAVY YA.IGGA.IJJA.
IGLOTTAL STOP.IDDDA.IBBA.0BENGALI ANJI.8SIGN CANDRABINDU.DANUSVARA.DVISARGA.@985.8lA.GA.FI.GI.
FU.GU.FVOCALIC R.NL.@98F.FE.FAI.@993.FO.FAU.FKA.GHA.FGA.GHA.FNGA.FCA.GHA.FJA.GHA.FNYA.FTTA.HHA.
FDDA.HHA.FNNA.FTA.GHA.FDA.GHA.FNA.@9AA.FPA.GHA.FBA.GHA.FMA.FYA.FRA.@9B2.FLA.@9B6.FSHA.GSA.GA.
FHA.@9BC.8SIGN NUKTA.DAVAGRAHA.8vAA.JI.KI.JU.KU.JVOCALIC R.SR.@9C7.JE.JAI.@9CB.JO.JAU.
8SIGN VIRAMA.8lKHANDA TA.@9D7.8AU LENGTH MARK.@9DC.8lRRA.GHA.@9DF.FYYA.FVOCALIC RR.NLL.
8vVOCALIC L.SL.@9E6.8DIGIT ZERO.EONE.ETWO.FHREE.EFOUR.FIVE.ESIX.FEVEN.EEIGHT.ENINE.
8lRAwMIDDLE DIAGONAL.NLOWER DIAGONAL.8RUPEE MARK.ESIGN.8CURRENCY NUMERATo ONE.RTWO.SHREE.RFOUR.
RONE LESS THAN THE DENOMINATo.HDENOMINATo SIXTEEN.8ISSHAR.8GANDA MARK.8lVEDIC ANUSVARA.
8ABBREVIAyx.8SANDHI MARK.@A01.0GURMUKHIx ADAK BINDI.EBINDI.EVISARGA.@A05.9lA.HA.GI.HI.GU.HU.
@A0F.GEE.GAI.@A13.GOO.GAU.GKA.HHA.GGA.HHA.GNGA.GCA.HHA.GJA.HHA.GNYA.GTTA.IHA.GDDA.IHA.GNNA.GTA.
HHA.GDA.HHA.GNA.@A2A.GPA.HHA.GBA.HHA.GMA.GYA.GRA.@A32.GLA.HLA.@A35.GVA.GSHA.@A38.HA.GHA.@A3C.
9SIGN NUKTA.@A3E.9vAA.KI.LI.KU.LU.@A47.KEE.KAI.@A4B.KOO.KAU.9SIGN VIRAMA.@A51.EUDAAT.@A59.
9lKHHA.GGHHA.GZA.GRRA.@A5E.GFA.@A66.9DIGIT ZERO.FONE.FTWO.GHREE.FFOUR.GIVE.FSIX.GEVEN.FEIGHT.
FNINE.9TIPPI.9ADDAK.9IRI.9URA.9EK ONKAR.9SIGN YAKASH.9ABBREVIAyx.@A81.2JARATIx CANDRABINDU.
EANUSVARA.EVISARGA.@A85.9lA.HA.GI.HI.GU.HU.GVOCALIC R.OL.9VOWEL CANDRA E.@A8F.9lE.GAI.
9VOWEL CANDRA O.@A93.9lO.GAU.GKA.HHA.GGA.HHA.GNGA.GCA.HHA.GJA.HHA.GNYA.GTTA.IHA.GDDA.IHA.GNNA.
GTA.HHA.GDA.HHA.GNA.@AAA.GPA.HHA.GBA.HHA.GMA.GYA.GRA.@AB2.GLA.HLA.@AB5.GVA.GSHA.HSA.HA.GHA.@ABC.
9SIGN NUKTA.EAVAGRAHA.9vAA.KI.LI.KU.LU.KVOCALIC R.TR.KCANDRA E.@AC7.KE.KAI.KCANDRA O.@ACB.KO.
KAU.9SIGN VIRAMA.@AD0.9OM.@AE0.9lVOCALIC RR.OLL.9vVOCALIC L.TL.@AE6.9DIGIT ZERO.FONE.FTWO.GHREE.
FFOUR.GIVE.FSIX.GEVEN.FEIGHT.FNINE.9ABBREVIAyx.9RUPEEx.@AF9.9lZHA.9SIGN SUKUN.FHADDA.EMADDAH.
ETHREE-DOT NUKTAe.En NUKTAe.ETWO-n NUKTAe.@B01.0oIYAx CANDRABINDU.BANUSVARA.BVISARGA.@B05.6lA.
EA.DI.EI.DU.EU.DVOCALIC R.LL.@B0F.DE.DAI.@B13.DO.DAU.DKA.EHA.DGA.EHA.DNGA.DCA.EHA.DJA.EHA.DNYA.
DTTA.FHA.DDDA.FHA.DNNA.DTA.EHA.DDA.EHA.DNA.@B2A.DPA.EHA.DBA.EHA.DMA.DYA.DRA.@B32.DLA.ELA.@B35.
DVA.DSHA.ESA.EA.DHA.@B3C.6SIGN NUKTA.BAVAGRAHA.6vAA.HI.II.HU.IU.HVOCALIC R.QR.@B47.HE.HAI.@B4B.
HO.HAU.6SIGN VIRAMA.@B55.BOVERLINE.6AI LENGTH MARK.7U LENGTH MARK.@B5C.6lRRA.EHA.@B5F.DYYA.
DVOCALIC RR.LLL.6vVOCALIC L.QL.@B66.6DIGIT ZERO.CONE.CTWO.DHREE.CFOUR.DIVE.CSIX.DEVEN.CEIGHT.
CNINE.6ISSHAR.6lWA.6FRACy ONE QUARTER.JHALF.FTHREE QUARTERS.FONE SIXTEENTH.JEIGHTH.
FTHREE SIXTEENTHS.@B82.0TAMILx ANUSVARA.BVISARGA.@B85.6lA.EA.DI.EI.DU.EU.@B8E.DE.EE.DAI.@B92.DO.
EO.DAU.DKA.@B99.DNGA.DCA.@B9C.DJA.@B9E.DNYA.DTTA.@BA3.DNNA.DTA.@BA8.DNA.ENNA.DPA.@BAE.DMA.DYA.
DRA.ERA.DLA.ELA.FLA.DVA.DSHA.ESA.EA.DHA.@BBE.6vAA.HI.II.HU.IU.@BC6.HE.IE.HAI.@BCA.HO.IO.HAU.
6SIGN VIRAMA.@BD0.6OM.@BD7.6AU LENGTH MARK.@BE6.6DIGIT ZERO.CONE.CTWO.DHREE.CFOUR.DIVE.CSIX.
DEVEN.CEIGHT.CNINE.6NUMBER TEN.DONE HUNDRED.HTHOUSAND.6DAYx.6MONTHx.6YEARx.6DEBITx.6CREDITx.
6ASex.6RUPEEx.6NUMBERx.@C00.1ELUGUx COMBINg CANDRABINDUe.DANDRABINDU.CANUSVARA.CVISARGA.
CCOMBINg ANUSVARAe.7lA.FA.EI.FI.EU.FU.EVOCALIC R.ML.@C0E.EE.FE.EAI.@C12.EO.FO.EAU.EKA.FHA.EGA.
FHA.ENGA.ECA.FHA.EJA.FHA.ENYA.ETTA.GHA.EDDA.GHA.ENNA.ETA.FHA.EDA.FHA.ENA.@C2A.EPA.FHA.EBA.FHA.
EMA.EYA.ERA.FRA.ELA.FLA.GLA.EVA.ESHA.FSA.FA.EHA.@C3C.7SIGN NUKTA.CAVAGRAHA.7vAA.II.JI.IU.JU.
IVOCALIC R.RR.@C46.IE.JE.IAI.@C4A.IO.JO.IAU.7SIGN VIRAMA.@C55.7LENGTH MARK.7AI LENGTH MARK.@C58.
7lTSA.EDZA.ERRRA.@C5D.ENAKAARA POLLU.@C60.EVOCALIC RR.MLL.7vVOCALIC L.RL.@C66.7DIGIT ZERO.DONE.
DTWO.EHREE.DFOUR.EIVE.DSIX.EEVEN.DEIGHT.DNINE.@C77.7SIGN SIDDHAM.
7FRACy DIGIT ZERO Fo ODD POWERS OF FOUR.MONE Fo ODD POWERS OF FOUR.MTWO Fo ODD POWERS OF FOUR.
NHREE Fo ODD POWERS OF FOUR.MONE Fo EVEN POWERS OF FOUR.MTWO Fo EVEN POWERS OF FOUR.
NHREE Fo EVEN POWERS OF FOUR.7SIGN TUUMU.0KANNADAx SPACg CANDRABINDU.DCANDRABINDU.DANUSVARA.
DVISARGA.DSIDDHAM.8lA.GA.FI.GI.FU.GU.FVOCALIC R.NL.@C8E.FE.GE.FAI.@C92.FO.GO.FAU.FKA.GHA.FGA.
GHA.FNGA.FCA.GHA.FJA.GHA.FNYA.FTTA.HHA.FDDA.HHA.FNNA.FTA.GHA.FDA.GHA.FNA.@CAA.FPA.GHA.FBA.GHA.
FMA.FYA.FRA.GRA.FLA.GLA.@CB5.FVA.FSHA.GSA.GA.FHA.@CBC.8SIGN NUKTA.DAVAGRAHA.8vAA.JI.KI.JU.KU.
JVOCALIC R.SR.@CC6.JE.KE.JAI.@CCA.JO.KO.JAU.8SIGN VIRAMA.@CD5.8LENGTH MARK.8AI LENGTH MARK.@CDD.
8lNAKAARA POLLU.FFA.@CE0.FVOCALIC RR.NLL.8vVOCALIC L.SL.@CE6.8DIGIT ZERO.EONE.ETWO.FHREE.EFOUR.
FIVE.ESIX.FEVEN.EEIGHT.ENINE.@CF1.8SIGN JIHVAMULIYA.DUPADHMANIYA.@D00.
0MALAYALAMx COMBINg ANUSVARAe.GANDRABINDU.FANUSVARA.FVISARGA.AlVEDIC ANUSVARA.HA.IA.HI.II.HU.IU.
HVOCALIC R.PL.@D0E.HE.IE.HAI.@D12.HO.IO.HAU.HKA.IHA.HGA.IHA.HNGA.HCA.IHA.HJA.IHA.HNYA.HTTA.JHA.
HDDA.JHA.HNNA.HTA.IHA.HDA.IHA.HNA.INNA.HPA.IHA.HBA.IHA.HMA.HYA.HRA.IRA.HLA.ILA.JLA.HVA.HSHA.ISA.
IA.HHA.HTTTA.ASIGN qBAR VIRAMA.FCIRCULAR VIRAMA.FAVAGRAHA.AvAA.LI.MI.LU.MU.LVOCALIC R.UR.@D46.
LE.ME.LAI.@D4A.LO.MO.LAU.ASIGN VIRAMA.AlDOT REPH.ASIGN PARA.@D54.AlCHILLU M.OY.OLLL.
AAU LENGTH MARK.AFRACy ONE ONE-HUNDRED-AND-SIXTIETH.NFoTIETH.JTHREE EIGHTIETHS.JONE TWENTIETH.
OENTH.JTHREE TWENTIETHS.JONE FIFTH.AlARCHAIC II.HVOCALIC RR.PLL.AvVOCALIC L.UL.@D66.ADIGIT ZERO.
GONE.GTWO.HHREE.GFOUR.HIVE.GSIX.HEVEN.GEIGHT.GNINE.ANUMBER TEN.HONE HUNDRED.LTHOUSAND.
AFRACy ONE QUARTER.NHALF.JTHREE QUARTERS.JONE SIXTEENTH.NEIGHTH.JTHREE SIXTEENTHS.ADATE MARK.
AlCHILLU NN.P.ORR.OL.PL.OK.@D81.0SINHALAx CANDRABINDU.DANUSVARAYA.DVISARGAYA.@D85.8lAYANNA.
GAYANNA.GEYANNA.HEYANNA.FIYANNA.GIYANNA.FUYANNA.GUYANNA.FIRUYANNA.IUYANNA.GLUYANNA.IUYANNA.
FEYANNA.GEYANNA.FAIYANNA.FOYANNA.GOYANNA.FAUYANNA.@D9A.GLPAPRAANA KAYANNA.FMAHAAPRAANA KAYANNA.
FALPAPRAANA GAYANNA.FMAHAAPRAANA GAYANNA.FKANTAJA NAASIKYAYA.FSANYAKA GAYANNA.
FALPAPRAANA CAYANNA.FMAHAAPRAANA CAYANNA.FALPAPRAANA JAYANNA.FMAHAAPRAANA JAYANNA.
FTAALUJA NAASIKYAYA.NSANYOOGA NAAKSIKYAYA.FSANYAKA JAYANNA.FALPAPRAANA TTAYANNA.
FMAHAAPRAANA TTAYANNA.FALPAPRAANA DDAYANNA.FMAHAAPRAANA DDAYANNA.GUURDHAJA NAYANNA.
FSANYAKA DDAYANNA.FALPAPRAANA TAYANNA.FMAHAAPRAANA TAYANNA.FALPAPRAANA DAYANNA.
FMAHAAPRAANA DAYANNA.FDANTAJA NAYANNA.@DB3.FSANYAKA DAYANNA.FALPAPRAANA PAYANNA.
FMAHAAPRAANA PAYANNA.FALPAPRAANA BAYANNA.FMAHAAPRAANA BAYANNA.HYANNA.FAMBA BAYANNA.FYAYANNA.
FRAYANNA.@DBD.FDANTAJA LAYANNA.@DC0.FVAYANNA.FTAALUJA SAYANNA.FMUURDHAJA SAYANNA.
FDANTAJA SAYANNA.FHAYANNA.FMUURDHAJA LAYANNA.FFAYANNA.@DCA.8SIGN AL-LAKUNA.@DCF.8vAELA-PILLA.
JKETTI AEDA-PILLA.JDIGA AEDA-PILLA.JKETTI IS-PILLA.JDIGA IS-PILLA.JKETTI PAA-PILLA.@DD6.
JDIGA PAA-PILLA.@DD8.JGAETTA-PILLA.JKOMBUVA.JDIGA KOMBUVA.JKOMBU DEKA.OVA HAA AELA-PILLA.
VDIGA AELA-PILLA.VGAYANUKITTA.JGAYANUKITTA.@DE6.8LITH DIGIT ZERO.JONE.JTWO.KHREE.JFOUR.KIVE.
JSIX.KEVEN.JEIGHT.JNINE.@DF2.8vDIGA GAETTA-PILLA.QYANUKITTA.8PUNCTUAy KUNDDALIYA.@E01.
0THAI CHARACTER KO KAI.GHO KHAI.LUAT.LWAI.LON.JRAKHANG.FNGO NGU.FCHO CHAN.Lg.LANG.FSO SO.
FCHO CHOE.FYO Yg.FDO CHADA.FTO PATAK.GHO THAN.JNANGMONTHO.JPHUTHAO.FNO NEN.FDO DEK.FTO TAO.
GHO THUNG.LAHAN.LONG.FNO NU.FBO BAIMAI.FPO PLA.GHO PHUNG.FFO FA.FPHO PHAN.FFO FAN.FPHO SAMPHAO.
FMO MA.FYO YAK.FRO RUA.GU.FLO Lg.GU.FWO WAEN.FSO SALA.IRUSI.ISUA.FHO HIP.FLO CHULA.FO ANG.
FHO NOKHUK.FPAIYANNOI.FSARA A.FMAI HAN-AKAT.FSARA AA.LM.KI.LI.KUE.ME.L.LU.FPHINTHU.@E3F.
6URRENCYp BAHT.6HARACTER SARA E.KAE.KO.KAI MAIMUAN.RALAI.FLAKKHANGYAO.FMAIYAMOK.ITAIKHU.I EK.
JTHO.KRI.JCHATTAWA.FTHANTHAKHAT.FNIKHAHIT.FYAMAKKAN.FFONGMAN.5DIGIT ZERO.BONE.BTWO.CHREE.BFOUR.
CIVE.BSIX.CEVEN.BEIGHT.BNINE.5CHARACTER ANGKHANKHU.FKHOMUT.@E81.0LAO lKO.CHO SUNG.@E84.FTAM.
@E86.BPALI GHA.BNGO.BCO.BPALI CHA.BSO TAM.@E8C.BPALI JHA.BNYO.BPALI NYA.GTTA.IHA.GDDA.IHA.GNNA.
BDO.BTO.CHO SUNG.FTAM.BPALI DHA.BNO.BBO.BPO.CHO SUNG.BFO TAM.BPHO TAM.BFO SUNG.BPALI BHA.BMO.
BYO.BLO Lg.@EA5.FOOT.@EA7.BWO.BSANSKRIT SHA.LSA.CO SUNG.BHO SUNG.BPALI LLA.BO.BHO TAM.4ELLIPSIS.
4vA.FMAI KAN.FAA.GM.FI.GI.FY.GY.FU.GU.4SIGN PALI VIRAMA.4vMAI KON.4SEMIvLO.JNYO.@EC0.4vE.GI.FO.
FAY.GI.@EC6.4KO LA.@EC8.4TONE MAI EK.DTHO.EI.DCATAWA.4CANCELLAy MARK.4NIGGAHITA.@ED0.
4DIGIT ZERO.AONE.ATWO.BHREE.AFOUR.BIVE.ASIX.BEVEN.AEIGHT.ANINE.@EDC.4HO NO.7MO.4lKHMU GO.GNYO.
@F00.0TIBETAN SYLLABLE OM.8MARK GTER YIG MGO TRUNCATED A.Q-UM RNAM BCAD MA.UGTER TSHEG MA.
DINITIAL YIG MGO MDUN MA.DCLOSg YIG MGO SGAB MA.EARET YIG MGO PHUR SHAD MA.
DYIG MGO TSHEG SHAD MA.DSBRUL SHAD.DBSKUR YIG MGO.EKA- SHOG YIG MGO.DINTERSYLLABIC TSHEG.
DDELIMITER TSHEG BSTAR.DSHAD.DNYIS SHAD.DTSHEG SHAD.DNYIS TSHEG SHAD.DRIN CHEN SPUNGS SHAD.
EGYA GRAM SHAD.DCARET -DZUD RTAGS ME LONG CAN.DGTER TSHEG.8LOGOTYPEx CHAD RTAGS.MLHAG RTAGS.
8ASTROLOGICALx SGRA GCAN -CHAR RTAGS.Q-KHYUD PA.QSDONG TSHUGS.8SIGN RDEL DKAR GCIG.ONYIS.OSUM.
INAG GCIG.NNYIS.IDKAR RDEL NAG.8DIGIT ZERO.EONE.ETWO.FHREE.EFOUR.FIVE.ESIX.FEVEN.EEIGHT.ENINE.
EHALF ONE.JTWO.KHREE.JFOUR.KIVE.JSIX.KEVEN.JEIGHT.JNINE.JZERO.8MARK BSDUS RTAGS.
DNGAS BZUNG NYI ZLA.DCARET -DZUD RTAGS BZHI MIG CAN.DNGAS BZUNG SGo RTAGS.DCHE MGO.DTSA -PHRU.
DGUG RTAGS GYON.PAS.DANG KHANG GYON.PAS.8SIGN YAR TSHES.DMAR TSHES.8lKA.GHA.FGA.GHA.FNGA.FCA.
GHA.FJA.@F49.FNYA.FTTA.HHA.FDDA.HHA.FNNA.FTA.GHA.FDA.GHA.FNA.FPA.GHA.FBA.GHA.FMA.FTSA.HHA.FDZA.
HHA.FWA.FZHA.GA.F-A.FYA.FRA.FLA.FSHA.GSA.GA.FHA.FA.FKSSA.FFIXED-FoM RA.FKKA.FRRA.@F71.8vAA.JI.
KI.JU.KU.JVOCALIC R.SR.RL.SL.JE.KE.JO.KO.8SIGN RJES SU NGA RO.ENAM BCAD.8vREVERSED I.TI.
8SIGN NYI ZLA NAA DA.DSNA LDAN.8MARK HALANTA.DPALUTA.8SIGN LCI RTAGS.DYANG RTAGS.DLCE TSA CAN.
DMCHU CAN.DGRU CAN RGYgS.HMED RGYgS.DINVERTED MCHU CAN.9UBJOINEDx LCE TSA CAN.NMCHU CAN.
NINVERTED MCHU CAN.IlKA.QHA.PGA.QHA.PNGA.PCA.QHA.PJA.@F99.PNYA.PTTA.RHA.PDDA.RHA.PNNA.PTA.QHA.
PDA.QHA.PNA.PPA.QHA.PBA.QHA.PMA.PTSA.RHA.PDZA.RHA.PWA.PZHA.QA.P-A.PYA.PRA.PLA.PSHA.QSA.QA.PHA.
PA.PKSSA.PFIXED-FoM WA.Z YA.Z RA.@FBE.8KU RU KHA.H BZHI MIG CAN.8CANTILLAyx HEAVY BEAT.
QLIGHT BEAT.QCANG TE-U.QSBUB -CHAL.8SYMBOL DRIL BU.FRDO RJE.FPADMA GDAN.FRDO RJE RGYA GRAM.
FPHUR PA.FNo BU.L NYIS -KHYIL.MGSUM -KHYIL.MBZHI -KHYIL.@FCE.9IGN RDEL NAG RDEL DKAR.MGSUM.
8MARK BSKA- SHOG GI MGO RGYAN.DMNYAM YIG GI MGO RGYAN.DNYIS TSHEG.
DINITIAL BRDA RNYg YIG MGO MDUN MA.DCLOSg BRDA RNYg YIG MGO SGAB MA.0h-FACg SVASTIx.
0t-FACg SVASTIx.0h-FACg SVASTIxwDOTS.0t-FACg SVASTIxwDOTS.0TIBETAN MARK LEADg MCHAN RTAGS.
DTRAILg MCHAN RTAGS.@1000.0MYANMAR lKA.GHA.FGA.GHA.FNGA.FCA.GHA.FJA.GHA.FNYA.GNYA.FTTA.HHA.FDDA.
HHA.FNNA.FTA.GHA.FDA.GHA.FNA.FPA.GHA.FBA.GHA.FMA.FYA.FRA.FLA.FWA.FSA.FHA.FLLA.FA.FSHAN A.FI.GI.
FU.GU.FE.FMON E.FO.FAU.8vTALL AA.JAA.JI.KI.JU.KU.JE.JAI.JMON II.NO.JEe.8SIGN ANUSVARA.DDOTb.
DVISARGA.FRAMA.DASAT.8CONSONANTx MEDIAL YA.URA.UWA.UHA.8lGREAT SA.8DIGIT ZERO.EONE.ETWO.FHREE.
EFOUR.FIVE.ESIX.FEVEN.EEIGHT.ENINE.8SIGN LITTLE SECy.DSECy.9YMBOL LOCATIVE.FCOMPLETED.
FAFoEMENyED.FGENITIVE.8lSHA.GSA.FVOCALIC R.OR.NL.OL.8vVOCALIC R.SR.RL.SL.8lMON NGA.JJHA.JBBA.LE.
8CONSONANTx MON MEDIAL NA.YMA.YLA.8lSGAW KAREN SHA.8vSGAW KAREN EU.8TONE MARK SGAW KAREN HATHI.
TKE PHO.8lWESTERN PWO KAREN THA.XPWA.8vWESTERN PWO KAREN EU.ZN UE.
8SIGN WESTERN PWO KAREN TONE-1.Z-2.Z-3.Z-4.Z-5.8lEASTERN PWO KAREN NNA.XYWA.XGHWA.
8vGEBA KAREN I.JKAYAH OE.PU.PEE.8lSHAN KA.LHA.KGA.KCA.KZA.KNYA.KDA.KNA.KPHA.KFA.KBA.KTHA.KHA.
8CONSONANTx SHAN MEDIAL WA.8vSHAN AA.OE.Pe.OFINAL Y.8SIGN SHAN TONE-2.N3.N5.N6.ICOUNCIL TONE-2.
V3.QEMPHATIC TONE.8lRUMAI PALAUNG FA.8SIGN RUMAI PALAUNG TONE-5.9HAN DIGIT ZERO.JONE.JTWO.KHREE.
JFOUR.KIVE.JSIX.KEVEN.JEIGHT.JNINE.9IGN KHAMTI TONE-1.P3.8vAITON A.QI.8SYMBOL SHAN ONE.
KEXCLAMAy.0GEoGIAN cAN.OBAN.OGAN.ODON.OEN.OVIN.OZEN.OTAN.OIN.OKAN.OLAS.OMAN.ONAR.OON.OPAR.OZHAR.
ORAE.OSAN.OTAR.OUN.OPHAR.OKHAR.OGHAN.OQAR.OSHIN.OCHIN.PAN.OJIL.OCIL.PHAR.OXAN.OJHAN.OHAE.PE.PIE.
OWE.OHAR.POE.@10C7.OYN.@10CD.OAEN.@10D0.9lAN.GBAN.GGAN.GDON.GEN.GVIN.GZEN.GTAN.GIN.GKAN.GLAS.
GMAN.GNAR.GON.GPAR.GZHAR.GRAE.GSAN.GTAR.GUN.GPHAR.GKHAR.GGHAN.GQAR.GSHIN.GCHIN.HAN.GJIL.GCIL.
HHAR.GXAN.GJHAN.GHAE.HE.HIE.GWE.GHAR.HOE.GFI.GYN.GELIFI.GTURNED GAN.GAIN.9PARAGRAPH SEPARATo.
0MODIFIER lGEoGIAN NAR.0GEoGIAN lAEN.GHARDx.GLABIALx.0HANGUL CHOSEONG KIYEOK.GSSANGKIYEOK.
GNIEUN.GTIKEUT.GSSANGTIKEUT.GRIEUL.GMIEUM.GPIEUP.GSSANGPIEUP.HIOS.HSANGSIOS.GIEUNG.GCIEUC.
GSSANGCIEUC.GCHIEUCH.GKHIEUKH.GTHIEUTH.GPHIEUPH.GHIEUH.GNIEUN-KIYEOK.GSSANGNIEUN.GNIEUN-TIKEUT.
MPIEUP.GTIKEUT-KIYEOK.GRIEUL-NIEUN.GSSANGRIEUL.GRIEUL-HIEUH.GKAPYEOUNRIEUL.GMIEUM-PIEUP.
GKAPYEOUNMIEUM.GPIEUP-KIYEOK.MNIEUN.MTIKEUT.MSIOS.Q-KIYEOK.RTIKEUT.RPIEUP.NSANGSIOS.NIOS-CIEUC.
MCIEUC.NHIEUCH.MTHIEUTH.MPHIEUPH.GKAPYEOUNPIEUP.OSSANGPIEUP.GSIOS-KIYEOK.LNIEUN.LTIKEUT.LRIEUL.
LMIEUM.LPIEUP.Q-KIYEOK.LSSANGSIOS.LIEUNG.LCIEUC.MHIEUCH.LKHIEUKH.LTHIEUTH.LPHIEUPH.LHIEUH.
GCHITUEUMSIOS.PSANGSIOS.HEONGCHIEUMSIOS.SSANGSIOS.GPANSIOS.GIEUNG-KIYEOK.MTIKEUT.MMIEUM.MPIEUP.
MSIOS.MPANSIOS.GSSANGIEUNG.GIEUNG-CIEUC.NHIEUCH.MTHIEUTH.MPHIEUPH.GYESIEUNG.GCIEUC-IEUNG.
HHITUEUMCIEUC.OSSANGCIEUC.HEONGCHIEUMCIEUC.RSSANGCIEUC.HHIEUCH-KHIEUKH.OHIEUH.JTUEUMCHIEUCH.
HEONGCHIEUMCHIEUCH.GPHIEUPH-PIEUP.GKAPYEOUNPHIEUPH.GSSANGHIEUH.GYEoINHIEUH.GKIYEOK-TIKEUT.
GNIEUN-SIOS.MCIEUC.MHIEUH.GTIKEUT-RIEUL.GFILLER.7JUNGSEONG FILLER.HA.IE.HYA.JE.HEO.I.HYEO.J.HO.
HWA.JE.HOE.HYO.HU.HWEO.J.II.HYU.HEU.HYI.HI.HA-O.JU.HYA-O.KYO.HEO-O.KU.KEU.HYEO-O.LU.HO-EO.K.JYE.
JO.JU.HYO-YA.ME.LEO.KO.KI.HU-A.KE.JEO-EU.JYE.JU.HYU-A.KEO.L.KYEO.M.KU.KI.HEU-U.KEU.HYI-U.HI-A.
JYA.JO.JU.JEU.JARAEA.HARAEA.M-EO.NU.NI.HSSANGARAEA.HA-EU.HYA-U.IEO-YA.HO-YA.LE.8ONGSEONG KIYEOK.
HSSANGKIYEOK.HKIYEOK-SIOS.HNIEUN.M-CIEUC.NHIEUH.HTIKEUT.HRIEUL.M-KIYEOK.NMIEUM.NPIEUP.NSIOS.
NTHIEUTH.NPHIEUPH.NHIEUH.HMIEUM.HPIEUP.M-SIOS.HSIOS.ISANGSIOS.HIEUNG.HCIEUC.IHIEUCH.HKHIEUKH.
HTHIEUTH.HPHIEUPH.HHIEUH.HKIYEOK-RIEUL.OSIOS-KIYEOK.HNIEUN-KIYEOK.NTIKEUT.NSIOS.NPANSIOS.
NTHIEUTH.HTIKEUT-KIYEOK.ORIEUL.HRIEUL-KIYEOK-SIOS.NNIEUN.NTIKEUT.T-HIEUH.HSSANGRIEUL.
HRIEUL-MIEUM-KIYEOK.TSIOS.NPIEUP-SIOS.THIEUH.NKAPYEOUNPIEUP.NSSANGSIOS.NPANSIOS.NKHIEUKH.
NYEoINHIEUH.HMIEUM-KIYEOK.NRIEUL.NPIEUP.NSIOS.OSANGSIOS.NPANSIOS.NCHIEUCH.NHIEUH.HKAPYEOUNMIEUM.
HPIEUP-RIEUL.NPHIEUPH.NHIEUH.HKAPYEOUNPIEUP.HSIOS-KIYEOK.MTIKEUT.MRIEUL.MPIEUP.HPANSIOS.
HIEUNG-KIYEOK.NSSANGKIYEOK.HSSANGIEUNG.HIEUNG-KHIEUKH.HYESIEUNG.P-SIOS.QPANSIOS.HPHIEUPH-PIEUP.
HKAPYEOUNPHIEUPH.HHIEUH-NIEUN.NRIEUL.NMIEUM.NPIEUP.HYEoINHIEUH.HKIYEOK-NIEUN.OPIEUP.OCHIEUCH.
OKHIEUKH.OHIEUH.HSSANGNIEUN.0ETHIOPIC SYLLABLE HA.JU.JI.JAA.JEE.K.JO.KA.ILA.JU.JI.JAA.JEE.K.JO.
JWA.IHHA.KU.KI.KAA.KEE.L.KO.KWA.IMA.JU.JI.JAA.JEE.K.JO.JWA.ISZA.KU.KI.KAA.KEE.L.KO.KWA.IRA.JU.
JI.JAA.JEE.K.JO.JWA.ISA.JU.JI.JAA.JEE.K.JO.JWA.JHA.KU.KI.KAA.KEE.L.KO.KWA.IQA.JU.JI.JAA.JEE.K.
JO.KA.JWA.@124A.KI.KAA.KEE.L.@1250.JHA.KU.KI.KAA.KEE.L.KO.@1258.KWA.@125A.LI.LAA.LEE.M.@1260.
IBA.JU.JI.JAA.JEE.K.JO.JWA.IVA.JU.JI.JAA.JEE.K.JO.JWA.ITA.JU.JI.JAA.JEE.K.JO.JWA.ICA.JU.JI.JAA.
JEE.K.JO.JWA.IXA.JU.JI.JAA.JEE.K.JO.KA.JWA.@128A.KI.KAA.KEE.L.@1290.INA.JU.JI.JAA.JEE.K.JO.JWA.
JYA.KU.KI.KAA.KEE.L.KO.KWA.IGLOTTAL A.QU.QI.QAA.QEE.R.QO.QWA.IKA.JU.JI.JAA.JEE.K.JO.KA.JWA.
@12B2.KI.KAA.KEE.L.@12B8.JXA.KU.KI.KAA.KEE.L.KO.@12C0.KWA.@12C2.LI.LAA.LEE.M.@12C8.IWA.JU.JI.
JAA.JEE.K.JO.KA.IPHARYNGEAL A.TU.TI.TAA.TEE.U.TO.@12D8.IZA.JU.JI.JAA.JEE.K.JO.JWA.JHA.KU.KI.KAA.
KEE.L.KO.KWA.IYA.JU.JI.JAA.JEE.K.JO.KA.IDA.JU.JI.JAA.JEE.K.JO.JWA.JDA.KU.KI.KAA.KEE.L.KO.KWA.
IJA.JU.JI.JAA.JEE.K.JO.JWA.IGA.JU.JI.JAA.JEE.K.JO.KA.JWA.@1312.KI.KAA.KEE.L.@1318.JGA.KU.KI.KAA.
KEE.L.KO.KWAA.ITHA.KU.KI.KAA.KEE.L.KO.KWA.ICHA.KU.KI.KAA.KEE.L.KO.KWA.IPHA.KU.KI.KAA.KEE.L.KO.
KWA.ITSA.KU.KI.KAA.KEE.L.KO.KWA.JZA.KU.KI.KAA.KEE.L.KO.LA.IFA.JU.JI.JAA.JEE.K.JO.JWA.IPA.JU.JI.
JAA.JEE.K.JO.JWA.IRYA.IMYA.IFYA.@135D.9COMBINg GEMINAyaVOWEL LENGTH MARK.JVOWEL LENGTH MARK.
JGEMINAy MARK.9SECy MARK.9WoDSPACE.9FULL STOP.9COMMA.9SEMICOLON.9COLON.9PREFACE COLON.
9QUESy MARK.9PARAGRAPH SEPARATo.9DIGIT ONE.FTWO.GHREE.FFOUR.GIVE.FSIX.GEVEN.FEIGHT.FNINE.
9NUMBER TEN.HWENTY.HHIRTY.GFoTY.HIFTY.GSIXTY.HEVENTY.GEIGHTY.GNINETY.GHUNDRED.GTEN THOUSAND.
@1380.9SYLLABLE SEBATBEIT MWA.IMWI.KEE.L.ISEBATBEIT BWA.IBWI.KEE.L.ISEBATBEIT FWA.IFWI.KEE.L.
ISEBATBEIT PWA.IPWI.KEE.L.9TONAL MARK YIZET.KDERET.KRIKRIK.KSHoT RIKRIK.KDIFAT.KKENAT.KCHIRET.
KHIDET.KDERET-HIDET.KKURT.@13A0.0CHEROKEE lA.GE.GI.GO.GU.GV.GGA.GKA.GGE.HI.HO.HU.HV.GHA.HE.HI.
HO.HU.HV.GLA.HE.HI.HO.HU.HV.GMA.HE.HI.HO.HU.GNA.GHNA.GNAH.HE.HI.HO.HU.HV.GQUA.IE.II.IO.IU.IV.
GSA.H.HE.HI.HO.HU.HV.GDA.GTA.GDE.GTE.GDI.GTI.GDO.HU.HV.HLA.GTLA.IE.II.IO.IU.IV.HSA.IE.II.IO.IU.
IV.GWA.HE.HI.HO.HU.HV.GYA.HE.HI.HO.HU.HV.GMV.@13F8.9sYE.NI.NO.NU.NV.MMV.@1400.
1ANADIAN SYLLABICS HYPHEN.JE.JAAI.JI.KI.JO.KO.JY-CREE OO.JCARRIER EE.RI.JA.KA.JWE.LST-CREE WE.
KI.KEST-CREE WI.KII.KEST-CREE WII.KO.KEST-CREE WO.KOO.KEST-CREE WOO.JNASKAPI WOO.JWA.
KEST-CREE WA.KAA.KEST-CREE WAA.JNASKAPI WAA.JAI.JY-CREE W.JGLOTTAL STOP.JFINAL ACUTE.PGRAVE.
PBOTTOM HALF Rg.PTOP HALF Rg.Ph HALF Rg.RNG.PdACUTE.WSHoT qSTROKES.PMIDDLE DOT.
PSHoT HoIZONTAL STROKE.PPLUS.PDOWN TACK.JEN.JIN.JON.JAN.JPE.KAAI.KI.LI.KO.LO.JY-CREE POO.
JCARRIER HEE.SI.JPA.LA.KWE.JWEST-CREE PWE.JPWI.JWEST-CREE PWI.JPWII.JWEST-CREE PWII.JPWO.
JWEST-CREE PWO.JPWOO.JWEST-CREE PWOO.JPWA.JWEST-CREE PWA.JPWAA.JWEST-CREE PWAA.JY-CREE PWAA.JP.
JWEST-CREE P.JCARRIER H.JTE.KAAI.KI.LI.KO.LO.JY-CREE TOO.JCARRIER DEE.SI.JTA.LA.KWE.
JWEST-CREE TWE.JTWI.JWEST-CREE TWI.JTWII.JWEST-CREE TWII.JTWO.JWEST-CREE TWO.JTWOO.
JWEST-CREE TWOO.JTWA.JWEST-CREE TWA.JTWAA.JWEST-CREE TWAA.JNASKAPI TWAA.JT.KTE.LI.LO.LA.JKE.
KAAI.KI.LI.KO.LO.JY-CREE KOO.JKA.LA.KWE.JWEST-CREE KWE.JKWI.JWEST-CREE KWI.JKWII.
JWEST-CREE KWII.JKWO.JWEST-CREE KWO.JKWOO.JWEST-CREE KWOO.JKWA.JWEST-CREE KWA.JKWAA.
JWEST-CREE KWAA.JNASKAPI KWAA.JK.KW.JSOUTH-SLAVEY KEH.XIH.XOH.XAH.JCE.KAAI.KI.LI.KO.LO.
JY-CREE COO.JCA.LA.KWE.JWEST-CREE CWE.JCWI.JWEST-CREE CWI.JCWII.JWEST-CREE CWII.JCWO.
JWEST-CREE CWO.JCWOO.JWEST-CREE CWOO.JCWA.JWEST-CREE CWA.JCWAA.JWEST-CREE CWAA.JNASKAPI CWAA.JC.
JSAYISI TH.JME.KAAI.KI.LI.KO.LO.JY-CREE MOO.JMA.LA.KWE.JWEST-CREE MWE.JMWI.JWEST-CREE MWI.JMWII.
JWEST-CREE MWII.JMWO.JWEST-CREE MWO.JMWOO.JWEST-CREE MWOO.JMWA.JWEST-CREE MWA.JMWAA.
JWEST-CREE MWAA.JNASKAPI MWAA.JM.JWEST-CREE M.JMH.JATHAPASCAN M.JSAYISI M.JNE.KAAI.KI.LI.KO.LO.
JY-CREE NOO.JNA.LA.KWE.JWEST-CREE NWE.JNWA.JWEST-CREE NWA.JNWAA.JWEST-CREE NWAA.JNASKAPI NWAA.K.
JCARRIER NG.JNH.JLE.KAAI.KI.LI.KO.LO.JY-CREE LOO.JLA.LA.KWE.JWEST-CREE LWE.JLWI.JWEST-CREE LWI.
JLWII.JWEST-CREE LWII.JLWO.JWEST-CREE LWO.JLWOO.JWEST-CREE LWOO.JLWA.JWEST-CREE LWA.JLWAA.
JWEST-CREE LWAA.JL.JWEST-CREE L.JMEDIAL L.JSE.KAAI.KI.LI.KO.LO.JY-CREE SOO.JSA.LA.KWE.
JWEST-CREE SWE.JSWI.JWEST-CREE SWI.JSWII.JWEST-CREE SWII.JSWO.JWEST-CREE SWO.JSWOO.
JWEST-CREE SWOO.JSWA.JWEST-CREE SWA.JSWAA.JWEST-CREE SWAA.JNASKAPI SWAA.JS.JATHAPASCAN S.JSW.
JBLACKFOOT S.JMOOSE-CREE SK.JNASKAPI SKW.S-W.SPWA.STWA.SKWA.SCWA.JSHE.LI.MI.LO.MO.LA.MA.LWE.
JWEST-CREE SHWE.JSHWI.JWEST-CREE SHWI.JSHWII.JWEST-CREE SHWII.JSHWO.JWEST-CREE SHWO.JSHWOO.
JWEST-CREE SHWOO.JSHWA.JWEST-CREE SHWA.JSHWAA.JWEST-CREE SHWAA.JSH.JYE.KAAI.KI.LI.KO.LO.
K-CREE YOO.KA.LA.KWE.JWEST-CREE YWE.JYWI.JWEST-CREE YWI.JYWII.JWEST-CREE YWII.JYWO.
JWEST-CREE YWO.JYWOO.JWEST-CREE YWOO.JYWA.JWEST-CREE YWA.JYWAA.JWEST-CREE YWAA.JNASKAPI YWAA.JY.
JBIBLE-CREE Y.JWEST-CREE Y.JSAYISI YI.JRE.K-CREE RE.JWEST-CREE LE.JRAAI.KI.LI.KO.LO.
JWEST-CREE LO.JRA.LA.JWEST-CREE LA.JRWAA.JWEST-CREE RWAA.JR.JWEST-CREE R.JMEDIAL R.JFE.KAAI.KI.
LI.KO.LO.KA.LA.KWAA.JWEST-CREE FWAA.JF.JTHE.JN-CREE THE.JTHI.JN-CREE THI.JTHII.JN-CREE THII.
JTHO.MO.LA.MA.LWAA.JWEST-CREE THWAA.JTH.KTHE.MI.MO.MA.M.KYE.LI.LO.LA.JNUNAVIK HE.SI.TI.SO.TO.SA.
TA.S.OUT H.JHK.JQAAI.KI.LI.KO.LO.KA.LA.K.JTLHE.MI.MO.MA.JWEST-CREE RE.UI.UO.UA.JNGAAI.LI.MI.LO.
MO.LA.MA.L.KNG.JSAYISI SHE.SI.SO.SA.JWOODS-CREE THE.WI.WO.WA.W.JLHI.MI.LO.MO.LA.MA.L.
JTH-CREE THE.TI.UI.TO.UO.TA.UA.T.JAIVILIK B.JBLACKFOOT E.TI.TO.TA.TWE.UI.UO.UA.TNE.UI.UO.UA.TKE.
UI.UO.UA.JSAYISI HE.RI.RO.RA.JCARRIER GHU.TO.TE.UE.TI.TA.RRU.SO.SE.TE.SI.SA.RWU.SO.SE.TE.SI.SA.
RHWU.TO.TE.UE.TI.TA.RTHU.TO.TE.UE.TI.TA.STU.TO.TE.UE.TI.TA.RPU.SO.SE.TE.SI.SA.S.RGU.SO.SE.TE.SI.
SA.RKHU.TO.TE.UE.TI.TA.SKU.TO.TE.UE.TI.TA.T.RNU.SO.SE.TE.SI.SA.RMU.SO.SE.TE.SI.SA.RYU.SO.SE.TE.
SI.SA.RJU.JSAYISI JU.JCARRIER JO.SE.TE.SI.JSAYISI JI.JCARRIER JA.SJU.TO.TE.UE.TI.TA.RLU.SO.SE.
TE.SI.SA.RDLU.TO.TE.UE.TI.TA.RLHU.TO.TE.UE.TI.TA.RTLHU.UO.UE.VE.UI.UA.TU.TO.TE.UE.TI.TA.RZU.SO.
SE.TE.SI.SA.S.RINITIAL Z.RDZU.TO.TE.UE.TI.TA.RSU.SO.SE.TE.SI.SA.SHU.TO.TE.UE.TI.TA.T.RTSU.TO.TE.
UE.TI.TA.RCHU.TO.TE.UE.TI.TA.RTTSU.UO.UE.VE.UI.UA.KHIx.JFULL STOP.JQAI.JNGAI.KNGI.NI.MO.NO.MA.
NA.JWOODS-CREE THWEE.XI.YI.XO.YO.XA.YA.UFINAL TH.JBLACKFOOT W.0OGHAM SPACE MARK.6lBEITH.DLUIS.
DFEARN.DSAIL.DNION.DUATH.DDAIR.DTINNE.DCOLL.EEIRT.DMUIN.DGoT.DNGEADAL.DSTRAIF.DRUIS.DAILM.DONN.
DUR.DEADHADH.DIODHADH.DEABHADH.Do.DUILLEANN.DIFIN.DEAMHANCHOLL.DPEITH.6FEATHER MARK.
6REVERSED FEATHER MARK.@16A0.0RUNIC lFEHU FEOH FE F.DV.DURUZ UR U.DYR.E.DW.DTHURISAZ THURS THoN.
DETH.DANSUZ A.DOS O.DAC A.EESC.DLONG-BRANCH-OSS O.DSHoT-TWIG-OSS O.DO.EE.EN.DRAIDO RAD REID R.
DKAUNA.DCEN.DKAUN K.DG.DENG.DGEBO GYFU G.EAR.DWUNJO WYNN W.DHAGLAZ H.FEGL H.
DLONG-BRANCH-HAGALL H.DSHoT-TWIG-HAGALL H.DNAUDIZ NYD NAUD N.DSHoT-TWIG-NAUD N.DDOTTED-N.
DISAZ IS ISS I.DE.DJERAN J.DGER.DLONG-BRANCH-AR AE.DSHoT-TWIG-AR A.DIWAZ EOH.DPERTHO PEoTH P.
DALGIZ EOLHX.DSOWILO S.EIGEL LONG-BRANCH-SOL S.EHoT-TWIG-SOL S.DC.DZ.DTIWAZ TIR TYR T.
DSHoT-TWIG-TYR T.DD.DBERKANAN BEoC BJARKAN B.DSHoT-TWIG-BJARKAN B.DDOTTED-P.DOPEN-P.DEHWAZ EH E.
DMANNAZ MAN M.DLONG-BRANCH-MADR M.DSHoT-TWIG-MADR M.DLAUKAZ LAGU LOGR L.DDOTTED-L.DgWAZ.G.
DDAGAZ DAEG D.DOTHALAN ETHEL O.DEAR.DIo.DCWEoTH.EALC.EEALC.DSTAN.DLONG-BRANCH-YR.DSHoT-TWIG-YR.
DICELANDIC-YR.DQ.DX.6SgLE PUNCTUAy.6MULTIPLE PUNCTUAy.6CROSS PUNCTUAy.6ARLAUGp.6TVIMADURp.
6BELGTHop.6lK.DSH.DOO.DFRANKS CASKET OS.RIS.REH.RAC.SESC.@1700.0TAGALOG lA.FI.FU.FKA.FGA.FNGA.
FTA.FDA.FNA.FPA.FBA.FMA.FYA.FRA.FLA.FWA.FSA.FHA.8vI.JU.8SIGN VIRAMA.DPAMUDPOD.@171F.
8lARCHAIC RA.0HANUNOO lA.FI.FU.FKA.FGA.FNGA.FTA.FDA.FNA.FPA.FBA.FMA.FYA.FRA.FLA.FWA.FSA.FHA.8vI.
JU.8SIGN PAMUDPOD.0PHILIPPINE SgLE PUNCTUAy.BdPUNCTUAy.@1740.0BUHID lA.DI.DU.DKA.DGA.DNGA.DTA.
DDA.DNA.DPA.DBA.DMA.DYA.DRA.DLA.DWA.DSA.DHA.6vI.HU.@1760.0TAGBANWA lA.GI.GU.GKA.GGA.GNGA.GTA.
GDA.GNA.GPA.GBA.GMA.GYA.@176E.GLA.GWA.GSA.@1772.9vI.KU.@1780.0KHMER lKA.EHA.EO.EHO.DNGO.DCA.EHA.
EO.EHO.DNYO.DDA.DTTHA.DDO.DTTHO.DNNO.DTA.EHA.EO.EHO.DNO.DBA.DPHA.EO.EHO.DMO.DYO.DRO.DLO.DVO.
DSHA.ESO.EA.DHA.DLA.DQA.6INDEPENDENT VOWEL QAQ.QA.PI.QI.PU.QK.QU.RV.ORY.QY.OLY.QY.OQE.PAI.
POO TYPE ONE.XTWO.PAU.6VOWEL INHERENT AQ.MA.CSIGN AA.HI.II.HY.IY.HU.IU.IA.HOE.HYA.HIE.HE.HAE.II.
HOO.HAU.6SIGN NIKAHIT.BREAHMUK.BYUUKALEAPINTU.BMUUSIKATOAN.BTRIISAP.BBANTOC.BROBAT.BTOANDAKHIAT.
BKAKABAT.BAHSDA.BSAMYOK SANNYA.BVIRIAM.BCOENG.BBATHAMASAT.BKHAN.BBARIYOOSAN.BCAMNUC PII KUUH.
BLEK TOO.BBEYYAL.BPHNAEK MUAN.BKOOMUUT.6CURRENCYp RIEL.6SIGN AVAKRAHASANYA.CTTHACAN.@17E0.
6DIGIT ZERO.CONE.CTWO.DHREE.CFOUR.DIVE.CSIX.DEVEN.CEIGHT.CNINE.@17F0.6SYMBOL LEK ATTAK SON.
NMUOY.NPII.NBEI.OUON.NPRAM.R-MUOY.SPII.SBEI.TUON.@1800.0MONGOLIAN BIRGA.AELLIPSIS.ACOMMA.
AFULL STOP.ACOLON.AFOUR DOTS.ATODO SOFT HYPHEN.ASIBE SYLLABLE BOUNDARY MARKER.AMANCHU COMMA.
HFULL STOP.ANIRUGU.AFREE VARIAy SELECTo ONE.YTWO.ZHREE.AVOWEL SEPARATo.
AFREE VARIAy SELECTo FOUR.ADIGIT ZERO.GONE.GTWO.HHREE.GFOUR.HIVE.GSIX.HEVEN.GEIGHT.GNINE.@1820.
AlA.HE.HI.HO.HU.HOE.HUE.HEE.HNA.HANG.HBA.HPA.HQA.HGA.HMA.HLA.HSA.IHA.HTA.HDA.HCHA.HJA.HYA.HRA.
HWA.HFA.HKA.IHA.HTSA.HZA.HHAA.HZRA.HLHA.HZHI.HCHI.HTODO LONG VOWELx.ME.MI.MO.MU.MOE.MUE.MANG.
MBA.MPA.MQA.MGA.MMA.MTA.MDA.MCHA.MJA.MTSA.MYA.MWA.MKA.MGAA.MHAA.MJIA.MNIA.MDZA.HSIBE E.MI.NY.
MUE.N.MANG.MKA.MGA.MHA.MPA.MSHA.MTA.MDA.MJA.MFA.MGAA.MHAA.MTSA.MZA.MRAA.MCHA.MZHA.HMANCHU I.OKA.
ORA.OFA.OZHA.HCHAwTWO DOTS.@1880.HALI GALI ANUSVARA ONE.QVISARGA ONE.QDAMARU.QUBADAMA.
QINVERTED UBADAMA.QBALUDA.QTHREE BALUDA.QA.QI.QKA.QNGA.QCA.QTTA.SHA.QDDA.QNNA.QTA.QDA.QPA.RHA.
QSSA.QZHA.RA.QAH.HTODO ALI GALI TA.VZHA.HMANCHU ALI GALI GHA.XNGA.XCA.XJHA.XTTA.XDDHA.XTA.XDHA.
XSSA.XCYA.XZHA.YA.HALI GALI HALF U.VYA.HMANCHU ALI GALI BHA.HALI GALI DAGALGA.
HMANCHU ALI GALI LHA.@18B0.0CANADIAN SYLLABICS OY.JAY.KAY.JWAY.JPOY.KAY.KWOY.JTAY.JKAY.KWAY.
JMAY.JNOY.KAY.JLAY.JSOY.KAY.KHOY.LAY.LWOY.JYOY.KAY.JRAY.JNWI.JOJIBWAY NWI.JNWII.JOJIBWAY NWII.
JNWO.JOJIBWAY NWO.JNWOO.JOJIBWAY NWOO.JRWEE.LI.MI.LO.MO.LA.JOJIBWAY P.RT.RK.RC.RM.RN.RS.SH.
JEASTERN W.JWESTERN W.JFINAL mRg.PRAISED DOT.JR-CREE RWE.JWEST-CREE LOO.UAA.JTHWE.MA.KTHWE.MOO.
MAA.KLHWE.MOO.JSAYISI SHWE.SOO.QHOO.JCARRIER GWU.RDENE GEE.RGAA.SWA.JSAYISI JUU.JCARRIER JWA.
JBEAVER DENE L.VR.JCARRIER DENTAL S.@1900.0LIMBU VOWEL-CARRIER LETTER.6lKA.EHA.DGA.EHA.DNGA.DCA.
EHA.DJA.EHA.DYAN.DTA.EHA.DDA.EHA.DNA.DPA.EHA.DBA.EHA.DMA.DYA.DRA.DLA.DWA.DSHA.ESA.EA.DHA.DGYAN.
DTRA.@1920.6vA.HI.HU.HEE.HAI.HOO.HAU.HE.HO.6SUBJOINED lYA.NRA.NWA.@1930.7MALL lKA.JNGA.
JANUSVARA.JTA.JNA.JPA.JMA.JRA.JLA.7IGN MUKPHRENG.BKEMPHRENG.BSA-I.@1940.BLOO.@1944.
6EXCLAMAy MARK.6QUESy MARK.6DIGIT ZERO.CONE.CTWO.DHREE.CFOUR.DIVE.CSIX.DEVEN.CEIGHT.CNINE.
0TAI LE lKA.EXA.ENGA.ETSA.ESA.EYA.ETA.FHA.ELA.EPA.FHA.EMA.EFA.EVA.EHA.EQA.EKHA.ETSHA.ENA.EA.EI.
EEE.FH.EU.EOO.F.EUE.EE.EAUE.FI.@1970.ETONE-2.J3.J4.J5.J6.@1980.0NEW TAI LUE lHIGH QA.JLOW QA.
JHIGH KA.OXA.ONGA.JLOW KA.NXA.NNGA.JHIGH TSA.OSA.OYA.JLOW TSA.NSA.NYA.JHIGH TA.PHA.ONA.JLOW TA.
OHA.NNA.JHIGH PA.PHA.OMA.JLOW PA.OHA.NMA.JHIGH FA.OVA.OLA.JLOW FA.NVA.NLA.JHIGH HA.ODA.OBA.
JLOW HA.NDA.NBA.JHIGH KVA.OXVA.JLOW KVA.NXVA.JHIGH SUA.JLOW SUA.@19B0.CvVOWEL SHoTENER.NAA.NII.
NU.OU.NE.NAE.NO.OA.NUE.NAY.OAY.NUY.NOY.OAY.NUEY.NIY.ClFINAL V.PNG.Q.PM.PK.PD.PB.CTONE MARK-1.M2.
@19D0.CDIGIT ZERO.IONE.ITWO.JHREE.IFOUR.JIVE.ISIX.JEVEN.IEIGHT.ININE.CTHAM DIGIT ONE.@19DE.
CSIGN LAE.KV.0KHMERp PATHAMASAT.DMUOY KOET.DPII KOET.DBEI KOET.EUON KOET.DPRAM KOET.H-MUOY KOET.
IPII KOET.IBEI KOET.JUON KOET.DDAP KOET.G-MUOY KOET.HPII KOET.HBEI KOET.IUON KOET.HPRAM KOET.
DTUTEYASAT.DMUOY ROC.DPII ROC.DBEI ROC.EUON ROC.DPRAM ROC.H-MUOY ROC.IPII ROC.IBEI ROC.JUON ROC.
DDAP ROC.G-MUOY ROC.HPII ROC.HBEI ROC.IUON ROC.HPRAM ROC.0BUGINESE lKA.GGA.GNGA.IKA.GPA.GBA.GMA.
HPA.GTA.GDA.GNA.HRA.GCA.GJA.GNYA.ICA.GYA.GRA.GLA.GVA.GSA.GA.GHA.9vI.KU.KE.KO.KAE.@1A1E.9PALLAWA.
9END OF SECy.0TAI THAM lHIGH KA.MHA.MXA.GLOW KA.LXA.LHA.GNGA.GHIGH CA.MHA.GLOW CA.KSA.KCHA.GNYA.
GRATA.GHIGH RATHA.GDA.GLOW RATHA.GRANA.GHIGH TA.MHA.GLOW TA.LHA.GNA.GBA.GHIGH PA.MHA.LFA.
GLOW PA.KFA.KPHA.GMA.GLOW YA.GHIGH YA.GRA.HUE.GLA.HUE.GWA.GHIGH SHA.MSA.MA.LHA.GLLA.GA.GLOW HA.
GI.HI.GU.HU.GEE.GOO.GLAE.GGREAT SA.9CONSONANTx MEDIAL RA.VLA.OLA TANG LAI.9SIGN MAI KANG LAI.
9CONSONANTx FINAL NGA.OLOW PA.OHIGH RATHA o LOW PA.OMA.OBA.OSA.@1A60.9SIGN SAKOT.9vA.KMAI SAT.
KAA.KTALL AA.KI.LI.KUE.LUE.L.LU.KO.LAb.LY.KE.KAE.KOO.KAI.KTHAM AI.KOAe.9SIGN MAI KANG.ETONE-1.
J2.EKHUEN TONE-3.P4.P5.ERA HAAM.EMAI SAM.EKHUEN-LUE KARAN.@1A7F.9COMBINg CRYPTOGRAMMIC DOT.
9HoA DIGIT ZERO.KONE.KTWO.LHREE.KFOUR.LIVE.KSIX.LEVEN.KEIGHT.KNINE.@1A90.9THAM DIGIT ZERO.KONE.
KTWO.LHREE.KFOUR.LIVE.KSIX.LEVEN.KEIGHT.KNINE.@1AA0.9SIGN WIANG.JWAAK.ESAWAN.EKEOW.EHOY.EDOKMAI.
EREVERSED ROTATED RANA.EMAI YAMOK.EKAAN.IKUU.ESATKAAN.LKUU.EHANG.ECAANG.@1AB0.
0COMBINg DOUBLED CIRCUMFLEX ACCENT.BIAERESIS-Rg.AINFINITY.ADOWNur.ATRIPLE DOT.AX-Xb.
AWIGGLY LINEb.AOPEN MARKb.AdOPEN MARKb.ALIGHT CENTRALIZAy STROKEb.ASTRONG CENTRALIZAy STROKEb.
APARENTHESESe.AdPARENTHESESe.APARENTHESESb.MOVERLAY.ALATIN sWb.TTURNED Wb.BEFT PARENTHESISe t.
Ah PARENTHESISe h.At PARENTHESISb t.Ah PARENTHESISb h.ASQUARE BRACKETSe.ANUMBERxe.
AINVERTED dARCHe.APLUSxe.AdPLUSxe.RBELOW.ATRIPLE ACUTE ACCENT.ALATIN sINSULAR G.ZR R.ZR T.@1B00.
0BALINESEx ULU RICEM.ICANDRA.ECECEK.ESURANG.EBISAH.9lAKARA.L TEDUNG.GIKARA.L TEDUNG.GUKARA.
L TEDUNG.GRA REPA.N TEDUNG.GLA LENGA.O TEDUNG.GEKARA.GAIKARA.GOKARA.L TEDUNG.GKA.I MAHAPRANA.
GGA.I GoA.GNGA.GCA.I LACA.GJA.I JERA.GNYA.GTA LATIK.JMURDA MAHAPRANA.GDA MURDA ALPAPRANA.
PMAHAPRANA.GNA RAMBAT.GTA.I TAWA.GDA.I MADU.GNA.GPA.I KAPAL.GBA.I KEMBANG.GMA.GYA.GRA.GLA.GWA.
GSA SAGA.LPA.I.GHA.9SIGN REREKAN.9vTEDUNG.KULU.N SARI.KSUKU.O ILUT.KRA REPA.R TEDUNG.KLA LENGA.
S TEDUNG.KTALg.Q REPA.RTEDUNG.RREPA TEDUNG.KPEPET.P TEDUNG.9ADEG ADEG.9lKAF SASAK.HHOT SASAK.
GTZIR SASAK.GEF SASAK.GVE SASAK.GZAL SASAK.GASYURA SASAK.HRCHAIC JNYA.@1B50.9DIGIT ZERO.FONE.
FTWO.GHREE.FFOUR.GIVE.FSIX.GEVEN.FEIGHT.FNINE.9PANTI.BMADA.9WINDU.9CARIK PAMUNGKAH.FSIKI.
FPAREREN.9PAMENENG.9MUSICALp DONG.PENG.PUNG.PANG.S SURANG.Pg.PAENG.PEUNG.PAg.QNG GEDE.
OCOMBINg TEGEH.YENDEP.YKEMPUL.ZEMPLI.YJEGOGAN.YKEMPULwJEGOGAN.ZEMPLIwJEGOGAN.YBENDE.YGONG.
Oh-HAND OPEN DUG.ZOPEN DAG.ZCLOSED TUK.ZCLOSED TAK.Ot-HAND OPEN PANG.ZPEN PUNG.YCLOSED PLAK.
ZLOSED PLUK.YOPEN Pg.9PANTI LANTANG.BMADA LANTANG.@1B80.0SUNDANESEx PANYECEK.IGLAYAR.JWISAD.AlA.
HI.HU.HAE.HO.HE.IU.HKA.HQA.HGA.HNGA.HCA.HJA.HZA.HNYA.HTA.HDA.HNA.HPA.HFA.HVA.HBA.HMA.HYA.HRA.
HLA.HWA.HSA.HXA.HHA.ACONSONANTx PAMgKAL.RNYAKRA.TIKU.AvPANGHULU.OYUKU.OAELAENG.OOLONG.NMEPET.
NNEULEUNG.ASIGN PAMAAEH.FVIRAMA.ACONSONANTx PASANGAN MA.YWA.AlKHA.HSYA.ADIGIT ZERO.GONE.GTWO.
HHREE.GFOUR.HIVE.GSIX.HEVEN.GEIGHT.GNINE.AAVAGRAHA.AlREU.HLEU.HBHA.HFINAL K.NM.0BATAK lA.
DSIMALUNGUN A.DHA.DSIMALUNGUN HA.DMANDAILg HA.DBA.DKARO BA.DPA.DSIMALUNGUN PA.DNA.DMANDAILg NA.
DWA.DSIMALUNGUN WA.DPAKPAK WA.DGA.DSIMALUNGUN GA.DJA.DDA.DRA.DSIMALUNGUN RA.DMA.DSIMALUNGUN MA.
EOUTHERN TA.DNoTHERN TA.DSA.EIMALUNGUN SA.DMANDAILg SA.DYA.DSIMALUNGUN YA.DNGA.DLA.
DSIMALUNGUN LA.DNYA.DCA.DNDA.DMBA.DI.DU.6SIGN TOMPI.6vE.HPAKPAK E.HEE.HI.HKARO I.HO.HKARO O.HU.
I Fo SIMALUNGUN SA.6CONSONANTx NG.LH.6PANGOLAT.9ONGONAN.@1BFC.6SYMBOL BINDU NA METEK.JPINARBoAS.
JJUDUL.JPANGOLAT.0LEPCHA lKA.FLA.FHA.EGA.FLA.ENGA.ECA.FHA.EJA.ENYA.ETA.FHA.EDA.ENA.EPA.FLA.FHA.
EFA.FLA.EBA.FLA.EMA.FLA.ETSA.GHA.EDZA.EYA.ERA.ELA.EHA.FLA.EVA.ESA.FHA.EWA.EA.7SUBJOINED lYA.ORA.
7vAA.II.IO.JO.IU.JU.IE.7CONSONANTx K.MM.ML.MN.MP.MR.MT.MNYIN-DO.MKANG.7SIGN RAN.CNUKTA.@1C3B.
7PUNCTUAy TA-ROL.JNYET THYOOM TA-ROL.JCER-WA.JTSHOOK CER-WA.P.7DIGIT ZERO.DONE.DTWO.EHREE.DFOUR.
EIVE.DSIX.EEVEN.DEIGHT.DNINE.@1C4D.7lTTA.GHA.EDDA.0OL CHIKI DIGIT ZERO.FONE.FTWO.GHREE.FFOUR.
GIVE.FSIX.GEVEN.FEIGHT.FNINE.9lLA.GAT.HG.HNG.HL.GLAA.GAAK.IJ.IM.IW.GLI.GIS.HH.HNY.HR.GLU.GUC.HD.
HNN.HY.GLE.GEP.HDD.HN.HRR.GLO.GOTT.HB.HV.HH.9MU TTUDDAG.9GAAHLAA TTUDDAAG.9MU-GAAHLAA TTUDDAAG.
9RELAA.9PHAARKAA.9AHAD.9PUNCTUAy MUCAAD.LdMUCAAD.0CYRILLIC sROUNDED VE.MLONG-LEGGED DE.MNr O.
MWIDE ES.MTALL TE.NHREE-LEGGED TE.NALL HARDx.RYAT.MUNBLENDED UK.@1C90.0GEoGIAN MTAVRULI cAN.
XBAN.XGAN.XDON.XEN.XVIN.XZEN.XTAN.XIN.XKAN.XLAS.XMAN.XNAR.XON.XPAR.XZHAR.XRAE.XSAN.XTAR.XUN.
XPHAR.XKHAR.XGHAN.XQAR.XSHIN.XCHIN.YAN.XJIL.XCIL.YHAR.XXAN.XJHAN.XHAE.YE.YIE.XWE.XHAR.YOE.XFI.
XYN.XELIFI.XTURNED GAN.XAIN.@1CBD.YEN.XHARDx.XLABIALx.0SUNDANESE PUNCTUAy BINDU SURYA.SPANGLONG.
TURNAMA.SCAKRA.SLEU SATANGA.SKA SATANGA.SDA SATANGA.SBA SATANGA.@1CD0.0VEDIC TONE KARSHANA.
BSHARA.BPRENKHA.6SIGN NIHSHVASA.BYAJURVEDIC MIDLINE SVARITA.
6TONE YAJURVEDIC AGGRAVATED INDEPENDENT SVARITA.MINDEPENDENT SVARITA.
MKATHAKA INDEPENDENT SVARITA.BCANDRAb.BYAJURVEDIC KATHAKA INDEPENDENT SVARITA SCHROEDER.
BdSVARITA.BTRIPLE SVARITA.BKATHAKA ANUDATTA.BDOTb.BTWO DOTSb.CHREE DOTSb.
BRIGVEDIC KASHMIRI INDEPENDENT SVARITA.BATHARVAVEDIC INDEPENDENT SVARITA.6SIGN VISARGA SVARITA.
JUDATTA.BREVERSED VISARGA UDATTA.BVISARGA ANUDATTA.BREVERSED VISARGA ANUDATTA.
BVISARGA UDATTAwTAIL.JANUDATTAwTAIL.BANUSVARA ANTARGOMUKHA.KBAHIRGOMUKHA.KVAMAGOMUKHA.VwTAIL.
BTIRYAK.BHEXIFoM LONG ANUSVARA.BLONG ANUSVARA.BRTHANG LONG ANUSVARA.BANUSVARA UBHAYATO MUKHA.
CRDHAVISARGA.BROTATED ARDHAVISARGA.6TONE CANDRAe.6SIGN JIHVAMULIYA.BUPADHMANIYA.BATIKRAMA.
6TONE Rge.BdRge.6SIGN dANUSVARA ANTARGOMUKHA.@1D00.0LATIN lmCAPITAL A.SE.6sTURNED AE.
6lmCAPITAL BARRED B.RC.RD.RETH.S.6sTURNED OPEN E.QI.6lmCAPITAL J.RK.RLwSTROKE.RM.RREVERSED N.RO.
SPEN O.6sSIDEWAYS O.TPEN O.TwSTROKE.JTURNED OE.6lmCAPITAL OU.6sTOP HALF O.JBOTTOM HALF O.
6lmCAPITAL P.RREVERSED R.RTURNED R.S.RU.6sSIDEWAYS U.SDIAERESIZED U.STURNED M.6lmCAPITAL V.RW.
RZ.REZH.DVOICED LARYNGEAL SPIRANT.DAIN.0GREEK lmCAPITAL GAMMA.RLAMDA.RPI.RRHO.RPSI.
0CYRILLIC lmCAPITAL EL.0MODIFIER lCAPITAL A.PE.OB.PARRED B.OD.OE.OREVERSED E.OG.OH.OI.OJ.OK.OL.
OM.ON.OREVERSED N.OO.PU.OP.OR.OT.OU.OW.GmA.MTURNED A.MALPHA.MTURNED AE.MB.MD.ME.MSCHWA.MOPEN E.
MTURNED OPEN E.MG.MTURNED I.MK.MM.MENG.MO.NPEN O.MTOP HALF O.MBOTTOM HALF O.MP.MT.MU.
MSIDEWAYS U.MTURNED M.MV.MAIN.MBETA.MGREEK GAMMA.MDELTA.MGREEK PHI.MCHI.0LATIN SUBSCRIPT sI.TR.
TU.TV.0GREEK SUBSCRIPT sBETA.TGAMMA.TRHO.TPHI.TCHI.0LATIN sUE.JBwMIDDLE TILDE.JDwMIDDLE TILDE.
JFwMIDDLE TILDE.JMwMIDDLE TILDE.JNwMIDDLE TILDE.JPwMIDDLE TILDE.JRwMIDDLE TILDE.
QFISHHOOKaMIDDLE TILDE.JSwMIDDLE TILDE.JTwMIDDLE TILDE.JZwMIDDLE TILDE.JTURNED G.
0MODIFIER lCYRILLIC EN.0LATIN sINSULAR G.JTHwSTRIKETHROUGH.CcIwSTROKE.ClIOTAwSTROKE.JPwSTROKE.
CcUwSTROKE.ClUPSILONwSTROKE.JBwPALATAL HOOK.JDwPALATAL HOOK.JFwPALATAL HOOK.JGwPALATAL HOOK.
JKwPALATAL HOOK.JLwPALATAL HOOK.JMwPALATAL HOOK.JNwPALATAL HOOK.JPwPALATAL HOOK.JRwPALATAL HOOK.
JSwPALATAL HOOK.JESHwPALATAL HOOK.JVwPALATAL HOOK.JXwPALATAL HOOK.JZwPALATAL HOOK.
JAwRETROFLEX HOOK.KLPHAwRETROFLEX HOOK.JDwHOOKaTAIL.JEwRETROFLEX HOOK.JOPEN EwRETROFLEX HOOK.
JREVERSED OPEN EwRETROFLEX HOOK.JSCHWAwRETROFLEX HOOK.JIwRETROFLEX HOOK.JOPEN OwRETROFLEX HOOK.
JESHwRETROFLEX HOOK.JUwRETROFLEX HOOK.JEZHwRETROFLEX HOOK.0MODIFIER lmTURNED ALPHA.MC.NwCURL.
METH.MREVERSED OPEN E.MF.MDOTLESS JwSTROKE.MSCRIPT G.MTURNED H.MIwSTROKE.NOTA.MCAPITAL I.
VwSTROKE.MJwCROSSED-TAIL.MLwRETROFLEX HOOK.TPALATAL HOOK.MCAPITAL L.MMwHOOK.MTURNED MwLONG LEG.
MNwt HOOK.TRETROFLEX HOOK.MCAPITAL N.MBARRED O.MPHI.MSwHOOK.MESH.MTwPALATAL HOOK.MU BAR.NPSILON.
MCAPITAL U.MVwHOOK.MTURNED V.MZ.NwRETROFLEX HOOK.TCURL.MEZH.MTHETA.0COMBINg DOTTED GRAVE ACCENT.
HACUTE ACCENT.ASNAKEb.BUSPENSION MARK.AMACRON-ACUTE.AGRAVE-MACRON.AMACRON-GRAVE.AACUTE-MACRON.
AGRAVE-ACUTE-GRAVE.AACUTE-GRAVE-ACUTE.ALATIN sRb.ABREVE-MACRON.AMACRON-BREVE.AdCIRCUMFLEXe.
AOGONEKe.AZIGZAGb.AISb.AURe.BSe.ALATIN sFLATTENED OPEN Ae.TAE.UO.UV.TC CEDILLA.TINSULAR D.TETH.
TG.GlmCAPITAL G.GsK.TL.GlmCAPITAL L.ZL M.GsN.GlmCAPITAL N.ZL R.GsR ROTUNDA.TS.TLONG S.TZ.TALPHA.
TB.UETA.TSCHWA.TF.TLwdMIDDLE TILDE.TOwLIGHT CENTRALIZAy STROKE.TP.TESH.
TUwLIGHT CENTRALIZAy STROKE.TW.TAwDIAERESIS.TOwDIAERESIS.TUwDIAERESIS.AUP TACKe.AKAVYKAe h.Nt.
ADOTe t.AWIDE INVERTED BRIDGEb.ADOTb t.BELEy MARK.BOUBLE INVERTED BREVEb.AALMOST EQUAL TOb.
At rHEADe.Ah rHEADaDOWN rHEADb.0LATIN cAwRgb.6sAwRgb.6cBwDOTe.6sBwDOTe.6cBwDOTb.6sBwDOTb.
6cBwLINEb.6sBwLINEb.6cCwCEDILLAaACUTE.6sCwCEDILLAaACUTE.6cDwDOTe.6sDwDOTe.6cDwDOTb.6sDwDOTb.
6cDwLINEb.6sDwLINEb.6cDwCEDILLA.6sDwCEDILLA.6cDwCIRCUMFLEXb.6sDwCIRCUMFLEXb.6cEwMACRONaGRAVE.
6sEwMACRONaGRAVE.6cEwMACRONaACUTE.6sEwMACRONaACUTE.6cEwCIRCUMFLEXb.6sEwCIRCUMFLEXb.6cEwTILDEb.
6sEwTILDEb.6cEwCEDILLAaBREVE.6sEwCEDILLAaBREVE.6cFwDOTe.6sFwDOTe.6cGwMACRON.6sGwMACRON.6cHwDOTe.
6sHwDOTe.6cHwDOTb.6sHwDOTb.6cHwDIAERESIS.6sHwDIAERESIS.6cHwCEDILLA.6sHwCEDILLA.6cHwBREVEb.
6sHwBREVEb.6cIwTILDEb.6sIwTILDEb.6cIwDIAERESISaACUTE.6sIwDIAERESISaACUTE.6cKwACUTE.6sKwACUTE.
6cKwDOTb.6sKwDOTb.6cKwLINEb.6sKwLINEb.6cLwDOTb.6sLwDOTb.6cLwDOTbaMACRON.6sLwDOTbaMACRON.
6cLwLINEb.6sLwLINEb.6cLwCIRCUMFLEXb.6sLwCIRCUMFLEXb.6cMwACUTE.6sMwACUTE.6cMwDOTe.6sMwDOTe.
6cMwDOTb.6sMwDOTb.6cNwDOTe.6sNwDOTe.6cNwDOTb.6sNwDOTb.6cNwLINEb.6sNwLINEb.6cNwCIRCUMFLEXb.
6sNwCIRCUMFLEXb.6cOwTILDEaACUTE.6sOwTILDEaACUTE.6cOwTILDEaDIAERESIS.6sOwTILDEaDIAERESIS.
6cOwMACRONaGRAVE.6sOwMACRONaGRAVE.6cOwMACRONaACUTE.6sOwMACRONaACUTE.6cPwACUTE.6sPwACUTE.
6cPwDOTe.6sPwDOTe.6cRwDOTe.6sRwDOTe.6cRwDOTb.6sRwDOTb.6cRwDOTbaMACRON.6sRwDOTbaMACRON.6cRwLINEb.
6sRwLINEb.6cSwDOTe.6sSwDOTe.6cSwDOTb.6sSwDOTb.6cSwACUTEaDOTe.6sSwACUTEaDOTe.6cSwCARONaDOTe.
6sSwCARONaDOTe.6cSwDOTbaDOTe.6sSwDOTbaDOTe.6cTwDOTe.6sTwDOTe.6cTwDOTb.6sTwDOTb.6cTwLINEb.
6sTwLINEb.6cTwCIRCUMFLEXb.6sTwCIRCUMFLEXb.6cUwDIAERESISb.6sUwDIAERESISb.6cUwTILDEb.6sUwTILDEb.
6cUwCIRCUMFLEXb.6sUwCIRCUMFLEXb.6cUwTILDEaACUTE.6sUwTILDEaACUTE.6cUwMACRONaDIAERESIS.
6sUwMACRONaDIAERESIS.6cVwTILDE.6sVwTILDE.6cVwDOTb.6sVwDOTb.6cWwGRAVE.6sWwGRAVE.6cWwACUTE.
6sWwACUTE.6cWwDIAERESIS.6sWwDIAERESIS.6cWwDOTe.6sWwDOTe.6cWwDOTb.6sWwDOTb.6cXwDOTe.6sXwDOTe.
6cXwDIAERESIS.6sXwDIAERESIS.6cYwDOTe.6sYwDOTe.6cZwCIRCUMFLEX.6sZwCIRCUMFLEX.6cZwDOTb.6sZwDOTb.
6cZwLINEb.6sZwLINEb.JHwLINEb.JTwDIAERESIS.JWwRge.JYwRge.JAwh HALF Rg.JLONG SwDOTe.
WIAGONAL STROKE.VHIGH STROKE.6cSHARP S.6sDELTA.6cAwDOTb.6sAwDOTb.6cAwHOOKe.6sAwHOOKe.
6cAwCIRCUMFLEXaACUTE.6sAwCIRCUMFLEXaACUTE.6cAwCIRCUMFLEXaGRAVE.6sAwCIRCUMFLEXaGRAVE.
6cAwCIRCUMFLEXaHOOKe.6sAwCIRCUMFLEXaHOOKe.6cAwCIRCUMFLEXaTILDE.6sAwCIRCUMFLEXaTILDE.
6cAwCIRCUMFLEXaDOTb.6sAwCIRCUMFLEXaDOTb.6cAwBREVEaACUTE.6sAwBREVEaACUTE.6cAwBREVEaGRAVE.
6sAwBREVEaGRAVE.6cAwBREVEaHOOKe.6sAwBREVEaHOOKe.6cAwBREVEaTILDE.6sAwBREVEaTILDE.6cAwBREVEaDOTb.
6sAwBREVEaDOTb.6cEwDOTb.6sEwDOTb.6cEwHOOKe.6sEwHOOKe.6cEwTILDE.6sEwTILDE.6cEwCIRCUMFLEXaACUTE.
6sEwCIRCUMFLEXaACUTE.6cEwCIRCUMFLEXaGRAVE.6sEwCIRCUMFLEXaGRAVE.6cEwCIRCUMFLEXaHOOKe.
6sEwCIRCUMFLEXaHOOKe.6cEwCIRCUMFLEXaTILDE.6sEwCIRCUMFLEXaTILDE.6cEwCIRCUMFLEXaDOTb.
6sEwCIRCUMFLEXaDOTb.6cIwHOOKe.6sIwHOOKe.6cIwDOTb.6sIwDOTb.6cOwDOTb.6sOwDOTb.6cOwHOOKe.6sOwHOOKe.
6cOwCIRCUMFLEXaACUTE.6sOwCIRCUMFLEXaACUTE.6cOwCIRCUMFLEXaGRAVE.6sOwCIRCUMFLEXaGRAVE.
6cOwCIRCUMFLEXaHOOKe.6sOwCIRCUMFLEXaHOOKe.6cOwCIRCUMFLEXaTILDE.6sOwCIRCUMFLEXaTILDE.
6cOwCIRCUMFLEXaDOTb.6sOwCIRCUMFLEXaDOTb.6cOwHoNaACUTE.6sOwHoNaACUTE.6cOwHoNaGRAVE.6sOwHoNaGRAVE.
6cOwHoNaHOOKe.6sOwHoNaHOOKe.6cOwHoNaTILDE.6sOwHoNaTILDE.6cOwHoNaDOTb.6sOwHoNaDOTb.6cUwDOTb.
6sUwDOTb.6cUwHOOKe.6sUwHOOKe.6cUwHoNaACUTE.6sUwHoNaACUTE.6cUwHoNaGRAVE.6sUwHoNaGRAVE.
6cUwHoNaHOOKe.6sUwHoNaHOOKe.6cUwHoNaTILDE.6sUwHoNaTILDE.6cUwHoNaDOTb.6sUwHoNaDOTb.6cYwGRAVE.
6sYwGRAVE.6cYwDOTb.6sYwDOTb.6cYwHOOKe.6sYwHOOKe.6cYwTILDE.6sYwTILDE.6cMIDDLE-WELSH LL.
6sMIDDLE-WELSH LL.6cMIDDLE-WELSH V.6sMIDDLE-WELSH V.6cYwLOOP.6sYwLOOP.0GREEK sALPHAwPSILI.
UDASIA.UPSILIaVARIA.UDASIAaVARIA.UPSILIaOXIA.UDASIAaOXIA.UPSILIaPERISPOMENI.UDASIAaPERISPOMENI.
6cALPHAwPSILI.WDASIA.WPSILIaVARIA.WDASIAaVARIA.WPSILIaOXIA.WDASIAaOXIA.WPSILIaPERISPOMENI.
WDASIAaPERISPOMENI.6sEPSILONwPSILI.WDASIA.WPSILIaVARIA.WDASIAaVARIA.WPSILIaOXIA.WDASIAaOXIA.
@1F18.6cEPSILONwPSILI.YDASIA.YPSILIaVARIA.YDASIAaVARIA.YPSILIaOXIA.YDASIAaOXIA.@1F20.
6sETAwPSILI.SDASIA.SPSILIaVARIA.SDASIAaVARIA.SPSILIaOXIA.SDASIAaOXIA.SPSILIaPERISPOMENI.
SDASIAaPERISPOMENI.6cETAwPSILI.UDASIA.UPSILIaVARIA.UDASIAaVARIA.UPSILIaOXIA.UDASIAaOXIA.
UPSILIaPERISPOMENI.UDASIAaPERISPOMENI.6sIOTAwPSILI.TDASIA.TPSILIaVARIA.TDASIAaVARIA.TPSILIaOXIA.
TDASIAaOXIA.TPSILIaPERISPOMENI.TDASIAaPERISPOMENI.6cIOTAwPSILI.VDASIA.VPSILIaVARIA.VDASIAaVARIA.
VPSILIaOXIA.VDASIAaOXIA.VPSILIaPERISPOMENI.VDASIAaPERISPOMENI.6sOMICRONwPSILI.WDASIA.
WPSILIaVARIA.WDASIAaVARIA.WPSILIaOXIA.WDASIAaOXIA.@1F48.6cOMICRONwPSILI.YDASIA.YPSILIaVARIA.
YDASIAaVARIA.YPSILIaOXIA.YDASIAaOXIA.@1F50.6sUPSILONwPSILI.WDASIA.WPSILIaVARIA.WDASIAaVARIA.
WPSILIaOXIA.WDASIAaOXIA.WPSILIaPERISPOMENI.WDASIAaPERISPOMENI.@1F59.6cUPSILONwDASIA.@1F5B.
ZASIAaVARIA.@1F5D.ZASIAaOXIA.@1F5F.ZASIAaPERISPOMENI.6sOMEGAwPSILI.UDASIA.UPSILIaVARIA.
UDASIAaVARIA.UPSILIaOXIA.UDASIAaOXIA.UPSILIaPERISPOMENI.UDASIAaPERISPOMENI.6cOMEGAwPSILI.WDASIA.
WPSILIaVARIA.WDASIAaVARIA.WPSILIaOXIA.WDASIAaOXIA.WPSILIaPERISPOMENI.WDASIAaPERISPOMENI.
6sALPHAwVARIA.UOXIA.JEPSILONwVARIA.WOXIA.KTAwVARIA.SOXIA.JIOTAwVARIA.TOXIA.JOMICRONwVARIA.WOXIA.
JUPSILONwVARIA.WOXIA.JOMEGAwVARIA.UOXIA.@1F80.JALPHAwPSILIaYPOGEGRAMMENI.UDASIAaYPOGEGRAMMENI.
UPSILIaVARIAaYPOGEGRAMMENI.UDASIAaVARIAaYPOGEGRAMMENI.UPSILIaOXIAaYPOGEGRAMMENI.
UDASIAaOXIAaYPOGEGRAMMENI.UPSILIaPERISPOMENIaYPOGEGRAMMENI.UDASIAaPERISPOMENIaYPOGEGRAMMENI.
6cALPHAwPSILIaPROSGEGRAMMENI.WDASIAaPROSGEGRAMMENI.WPSILIaVARIAaPROSGEGRAMMENI.
WDASIAaVARIAaPROSGEGRAMMENI.WPSILIaOXIAaPROSGEGRAMMENI.WDASIAaOXIAaPROSGEGRAMMENI.
WPSILIaPERISPOMENIaPROSGEGRAMMENI.WDASIAaPERISPOMENIaPROSGEGRAMMENI.6sETAwPSILIaYPOGEGRAMMENI.
SDASIAaYPOGEGRAMMENI.SPSILIaVARIAaYPOGEGRAMMENI.SDASIAaVARIAaYPOGEGRAMMENI.
SPSILIaOXIAaYPOGEGRAMMENI.SDASIAaOXIAaYPOGEGRAMMENI.SPSILIaPERISPOMENIaYPOGEGRAMMENI.
SDASIAaPERISPOMENIaYPOGEGRAMMENI.6cETAwPSILIaPROSGEGRAMMENI.UDASIAaPROSGEGRAMMENI.
UPSILIaVARIAaPROSGEGRAMMENI.UDASIAaVARIAaPROSGEGRAMMENI.UPSILIaOXIAaPROSGEGRAMMENI.
UDASIAaOXIAaPROSGEGRAMMENI.UPSILIaPERISPOMENIaPROSGEGRAMMENI.UDASIAaPERISPOMENIaPROSGEGRAMMENI.
6sOMEGAwPSILIaYPOGEGRAMMENI.UDASIAaYPOGEGRAMMENI.UPSILIaVARIAaYPOGEGRAMMENI.
UDASIAaVARIAaYPOGEGRAMMENI.UPSILIaOXIAaYPOGEGRAMMENI.UDASIAaOXIAaYPOGEGRAMMENI.
UPSILIaPERISPOMENIaYPOGEGRAMMENI.UDASIAaPERISPOMENIaYPOGEGRAMMENI.6cOMEGAwPSILIaPROSGEGRAMMENI.
WDASIAaPROSGEGRAMMENI.WPSILIaVARIAaPROSGEGRAMMENI.WDASIAaVARIAaPROSGEGRAMMENI.
WPSILIaOXIAaPROSGEGRAMMENI.WDASIAaOXIAaPROSGEGRAMMENI.WPSILIaPERISPOMENIaPROSGEGRAMMENI.
WDASIAaPERISPOMENIaPROSGEGRAMMENI.6sALPHAwVRACHY.UMACRON.UVARIAaYPOGEGRAMMENI.UYPOGEGRAMMENI.
UOXIAaYPOGEGRAMMENI.@1FB6.UPERISPOMENI.ZPOMENIaYPOGEGRAMMENI.6cALPHAwVRACHY.WMACRON.WVARIA.
WOXIA.WPROSGEGRAMMENI.6KoONIS.6PROSGEGRAMMENI.7SILI.7ERISPOMENI.6DIALYTIKAaPERISPOMENI.
6sETAwVARIAaYPOGEGRAMMENI.SYPOGEGRAMMENI.SOXIAaYPOGEGRAMMENI.@1FC6.SPERISPOMENI.
ZMENIaYPOGEGRAMMENI.6cEPSILONwVARIA.YOXIA.MTAwVARIA.UOXIA.UPROSGEGRAMMENI.6PSILIaVARIA.GOXIA.
GPERISPOMENI.6sIOTAwVRACHY.TMACRON.TDIALYTIKAaVARIA.ZIKAaOXIA.@1FD6.TPERISPOMENI.
TDIALYTIKAaPERISPOMENI.6cIOTAwVRACHY.VMACRON.VVARIA.VOXIA.@1FDD.6DASIAaVARIA.GOXIA.GPERISPOMENI.
6sUPSILONwVRACHY.WMACRON.WDIALYTIKAaVARIA.ZLYTIKAaOXIA.JRHOwPSILI.SDASIA.JUPSILONwPERISPOMENI.
WDIALYTIKAaPERISPOMENI.6cUPSILONwVRACHY.YMACRON.YVARIA.YOXIA.LRHOwDASIA.6DIALYTIKAaVARIA.KOXIA.
6VARIA.@1FF2.6sOMEGAwVARIAaYPOGEGRAMMENI.UYPOGEGRAMMENI.UOXIAaYPOGEGRAMMENI.@1FF6.UPERISPOMENI.
ZPOMENIaYPOGEGRAMMENI.6cOMICRONwVARIA.YOXIA.NEGAwVARIA.WOXIA.WPROSGEGRAMMENI.6OXIA.6DASIA"

end Draftsman.Text.CharacterName
