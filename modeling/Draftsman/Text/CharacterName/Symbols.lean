/-
# Draftsman.Text.CharacterName.Symbols -- punctuation, symbols and drawings, U+2000 to U+2BFF

The table is written in the notation of `Draftsman.Text.CharacterName` (version 14 of
the character standard).
-/

namespace Draftsman.Text.CharacterName

set_option autoImplicit false

/-- The names of the characters from U+2000 to U+2BFF: punctuation, letterlike
characters, arrows, operators, and what boxes and diagrams are drawn with. -/
def symbols : String :=
  "@2000.0EN QUAD.1M QUAD.1N SPACE.1M SPACE.0THREE-PER-EM SPACE.0FOUR-PER-EM SPACE.
0SIX-PER-EM SPACE.0FIGURE SPACE.0PUNCTUAy SPACE.0THIN SPACE.0HAIR SPACE.0ZERO WIDTH SPACE.
BNON-JOINER.BJOINER.0t-TO-h MARK.0h-TO-t MARK.0HYPHEN.0NON-BREAKg HYPHEN.0FIGURE DASH.0EN DASH.
1M DASH.0HoIZONTAL BAR.0dqLINE.7LOW LINE.0t SgLE QUOTAy MARK.0h SgLE QUOTAy MARK.
0SgLE LOW-9 QUOTAy MARK.7HIGH-REVERSED-9 QUOTAy MARK.0t dQUOTAy MARK.0h dQUOTAy MARK.
0dLOW-9 QUOTAy MARK.7HIGH-REVERSED-9 QUOTAy MARK.1AGGER.1OUBLE DAGGER.0BULLET.
0TRIANGULAR BULLET.0ONE DOT LEADER.0TWO DOT LEADER.0HoIZONTAL ELLIPSIS.1YPHENAy POINT.
0LINE SEPARATo.0PARAGRAPH SEPARATo.0t-TO-h EMBEDDg.0h-TO-t EMBEDDg.0POP DIRECyAL FoMATTg.
0t-TO-h OVERRIDE.0h-TO-t OVERRIDE.0Nr NO-BREAK SPACE.0PER MILLEx.4TEN THOUSANDx.1RIME.0dPRIME.
0TRIPLE PRIME.0REVERSED PRIME.9dPRIME.9TRIPLE PRIME.0CARET.0SgLE t-zANGLE QUOTAy MARK.
7h-zANGLE QUOTAy MARK.0REFERENCE MARK.0dEXCLAMAy MARK.0INTERROBANG.0OVERLINE.0UNDERTIE.
0CHARACTER TIE.1ARET INSERy POINT.0ASTERISM.0HYPHEN BULLET.0FRACy SLASH.0t SQUARE BRACKETwQUILL.
0h SQUARE BRACKETwQUILL.0dQUESy MARK.0QUESy EXCLAMAy MARK.0EXCLAMAy QUESy MARK.0TIRONIANx ET.
0REVERSED PILCROWx.0BLACK tuBULLET.6huBULLET.0LOW ASTERISK.0REVERSED SEMICOLON.0CLOSE UP.
0TWO ASTERISKS ALIGNED VERTICALLY.0COMMERCIAL MINUSx.0SWUNG DASH.0INVERTED UNDERTIE.
0FLOWER PUNCTUAy MARK.0THREE DOT PUNCTUAy.0QUADRUPLE PRIME.0FOUR DOT PUNCTUAy.1IVE DOT PUNCTUAy.
0TWO DOT PUNCTUAy.0FOUR DOT MARK.0DOTTED CROSS.0TRICOLON.0qFOUR DOTS.0MEDIUM MATHEMATICAL SPACE.
0WoD JOINER.0FUNCy APPLICAy.0INVISIBLE TIMES.ASEPARATo.APLUS.@2066.0t-TO-h ISOLATE.
0h-TO-t ISOLATE.0FIRST STRONG ISOLATE.0POP DIRECyAL ISOLATE.0INHIBIT SYMMETRIC SWAPPg.
0ACTIVATE SYMMETRIC SWAPPg.0INHIBIT ARABIC FoM SHAPg.0ACTIVATE ARABIC FoM SHAPg.
0NAyAL DIGIT SHAPES.1OMINAL DIGIT SHAPES.0SUPERSCRIPT ZERO.CLATIN sI.@2074.CFOUR.DIVE.CSIX.
DEVEN.CEIGHT.CNINE.CPLUSx.CMINUS.CEQUALSx.Ct PARENTHESIS.Ch PARENTHESIS.CLATIN sN.2BSCRIPT ZERO.
AONE.ATWO.BHREE.AFOUR.BIVE.ASIX.BEVEN.AEIGHT.ANINE.APLUSx.AMINUS.AEQUALSx.At PARENTHESIS.
Ah PARENTHESIS.@2090.0LATIN SUBSCRIPT sA.TE.TO.TX.TSCHWA.TH.TK.TL.TM.TN.TP.TS.TT.@20A0.
0EURO-CURRENCYx.0COLONx.1RUZEIROx.0FRENCH FRANCx.0LIRAx.0MILLx.0NAIRAx.0PESETAx.0RUPEEx.0WONx.
0NEW SHEQELx.0DONGx.0EUROx.0KIPx.0TUGRIKx.0DRACHMAx.0GERMAN PENNYx.0PESOx.0GUARANIx.0AUSTRALx.
0HRYVNIAx.0CEDIx.0LIVRE TOURNOISx.0SPESMILOx.0TENGEx.0INDIAN RUPEEx.0TURKISH LIRAx.0NoDIC MARKx.
0MANATx.0RUBLEx.0LARIx.0BITCOINx.0SOMx.@20D0.0COMBINg t HARPOONe.Ah HARPOONe.
ALONG qLINE OVERLAY.ASHoT qLINE OVERLAY.AANTICLOCKWISE re.ACLOCKWISE re.At re.Ah re.CNG OVERLAY.
ACLOCKWISE Rg OVERLAY.AANTICLOCKWISE Rg OVERLAY.ATHREE DOTSe.AFOUR DOTSe.AENCLOSg n.KSQUARE.
KDIAMOND.Kn BACKSLASH.At h re.AENCLOSg SCREEN.KKEYCAP.KUPWARD zk.AREVERSE SOLIDUS OVERLAY.
AdqSTROKE OVERLAY.AANNUITYp.ATRIPLE UNDERDOT.AWIDE BRIDGEe.Atur OVERLAY.BONG dSOLIDUS OVERLAY.
AhuHARPOONwBARB DOWNWARDS.AtuHARPOONwBARB DOWNWARDS.E rb.Ah rb.AASTERISKe.@2100.0ACCOUNT OF.
1DDRESSED TO THE SUBJECT.0DOUBLE-STRUCK CAPITAL C.1EGREE CELSIUS.0CENTRE LINEp.1ARE OF.2DA UNA.
0EULER CONSTANT.0SCRUPLE.0DEGREE FAHRENHEIT.0SCRIPT mG.7CAPITAL H.0BLACK-lCAPITAL H.
0DOUBLE-STRUCK CAPITAL H.0PLANCK CONSTANT.F OVER TWO PI.0SCRIPT CAPITAL I.0BLACK-lCAPITAL I.
0SCRIPT CAPITAL L.7mL.0L B BARp.0DOUBLE-STRUCK CAPITAL N.0NUMEROx.0SOUND RECoDg COPYh.
1CRIPT CAPITAL P.0DOUBLE-STRUCK CAPITAL P.MQ.0SCRIPT CAPITAL R.0BLACK-lCAPITAL R.
0DOUBLE-STRUCK CAPITAL R.0PRESCRIPy TAKE.0RESPONSE.0SERVICE MARK.0TELEPHONEx.1RADE MARKx.
0VERSICLE.0DOUBLE-STRUCK CAPITAL Z.0OUNCEx.1HMx.0INVERTED OHMx.0BLACK-lCAPITAL Z.
0TURNED GREEK sIOTA.0KELVINx.0ANGSTROMx.0SCRIPT CAPITAL B.0BLACK-lCAPITAL C.0ESTIMATEDp.
0SCRIPT mE.7CAPITAL E.FF.0TURNED CAPITAL F.0SCRIPT CAPITAL M.7mO.0ALEFp.0BETp.0GIMELp.0DALETp.
0INFoMAy SOURCE.0ROTATED CAPITAL Q.0FACSIMILEx.0DOUBLE-STRUCK mPI.KGAMMA.ECAPITAL GAMMA.MPI.
EN-ARY SUMMAy.0TURNED SANS-SERIF CAPITAL G.QL.0REVERSED SANS-SERIF CAPITAL L.
0TURNED SANS-SERIF CAPITAL Y.0DOUBLE-STRUCK ITALIC CAPITAL D.LmD.RE.RI.RJ.0PROPERTY LINE.
0TURNED AMPERSAND.0PERx.0AKTIESELSKAB.0TURNED mF.0SYMBOL Fo SAMARITAN SOURCE.
0VULGAR FRACy ONE SEVENTH.KNINTH.KTENTH.LHIRD.GTWO THIRDS.GONE FIFTH.GTWO FIFTHS.HHREE FIFTHS.
GFOUR FIFTHS.GONE SIXTH.GFIVE SIXTHS.GONE EIGHTH.GTHREE EIGHTHS.GFIVE EIGHTHS.GSEVEN EIGHTHS.
0FRACy NUMERATo ONE.0ROMAN NUMERAL ONE.ETWO.FHREE.EFOUR.FIVE.ESIX.FEVEN.EEIGHT.ENINE.ETEN.
EELEVEN.ETWELVE.EFIFTY.EONE HUNDRED.EFIVE HUNDRED.EONE THOUSAND.0mROMAN NUMERAL ONE.KTWO.LHREE.
KFOUR.LIVE.KSIX.LEVEN.KEIGHT.KNINE.KTEN.KELEVEN.KTWELVE.KFIFTY.KONE HUNDRED.KFIVE HUNDRED.
KONE THOUSAND.0ROMAN NUMERAL ONE THOUSAND C D.EFIVE THOUSAND.ETEN THOUSAND.
EREVERSED ONE HUNDRED.0LATIN sREVERSED C.0ROMAN NUMERAL SIX LATE FoM.EFIFTY EARLY FoM.KTHOUSAND.
EONE HUNDRED THOUSAND.0VULGAR FRACy ZERO THIRDS.0TURNED DIGIT TWO.EHREE.@2190.0tur.0UPur.0hur.
0DOWNur.0t h r.0UP DOWN r.0NoTH WEST r.6EAST r.0SOUTH EAST r.6WEST r.0turwSTROKE.0hurwSTROKE.
0tuWAVE r.0huWAVE r.0tuTWO HEADED r.0UPuTWO HEADED r.0huTWO HEADED r.0DOWNuTWO HEADED r.
0turwTAIL.0hurwTAIL.0tur FROM BAR.0UPur FROM BAR.0hur FROM BAR.0DOWNur FROM BAR.0UP DOWN rwBASE.
0turwHOOK.0hurwHOOK.0turwLOOP.0hurwLOOP.0t h WAVE r.BrwSTROKE.0DOWNuZIGZAG r.0UPurwTIP tWARDS.
NhWARDS.0DOWNurwTIP tWARDS.PhWARDS.0hurwCoNER DOWNWARDS.0DOWNurwCoNER tWARDS.
0ANTICLOCKWISE TOP SEMIn r.0CLOCKWISE TOP SEMIn r.0NoTH WEST r TO LONG BAR.
0tur TO BAR OVER hur TO BAR.0ANTICLOCKWISE OPEN n r.0CLOCKWISE OPEN n r.0tuHARPOONwBARB UPWARDS.
SDOWNWARDS.0UPuHARPOONwBARB hWARDS.QtWARDS.0huHARPOONwBARB UPWARDS.TDOWNWARDS.
0DOWNuHARPOONwBARB hWARDS.StWARDS.0hur OVER tur.0UPur tuOF DOWNur.0tur OVER hur.APAIRED rS.
0UPuPAIRED rS.0huPAIRED rS.0DOWNuPAIRED rS.0tuHARPOON OVER huHARPOON.0huHARPOON OVER tuHARPOON.
0tudrwSTROKE.4 h drwSTROKE.0hudrwSTROKE.0tudr.0UPudr.0hudr.0DOWNudr.0t h dr.0UP DOWN dr.
0NoTH WEST dr.6EAST dr.0SOUTH EAST dr.6WEST dr.0tuTRIPLE r.0huTRIPLE r.0tuSQUIGGLE r.
0huSQUIGGLE r.0UPurwdSTROKE.0DOWNurwdSTROKE.0tuDASHED r.0UPuDASHED r.0huDASHED r.0DOWNuDASHED r.
0tur TO BAR.0hur TO BAR.0tuWHITE r.0UPuWHITE r.0huWHITE r.0DOWNuWHITE r.0UPuWHITE r FROM BAR.
KON PEDESTAL.VwHoIZONTAL BAR.ZH qBAR.Edr.Q ON PEDESTAL.0huWHITE r FROM WALL.
0NoTH WEST r TO CoNER.0SOUTH EAST r TO CoNER.0UP DOWN WHITE r.0h rwmn.0DOWNur tuOF UPur.
0THREE hurS.0turwqSTROKE.0hurwqSTROKE.0t h rwqSTROKE.4urwdqSTROKE.0hurwdqSTROKE.0t h rwdqSTROKE.
4uOPEN-HEADED r.0huOPEN-HEADED r.0t h OPEN-HEADED r.0Fo ALL.0COMPLEMENT.0PARTIAL DIFFERENTIAL.
0THERE EXISTS.6DOES NOT EXIST.0EMPTY SET.0INCREMENT.0NABLA.0ELEMENT OF.0NOT AN ELEMENT OF.
0mELEMENT OF.0CONTAINS AS MEMBER.0DOES NOT CONTAIN AS MEMBER.0mCONTAINS AS MEMBER.0END OF PROOF.
0N-ARY PRODUCT.6COPRODUCT.6SUMMAy.0MINUSx.5-o-PLUSx.0DOT PLUS.1IVISION SLASH.0SET MINUS.
0ASTERISK OPERATo.0Rg OPERATo.0BULLET OPERATo.0SQUARE ROOT.0CUBE ROOT.0FOURTH ROOT.0PROPoyAL TO.
0INFINITY.0h ANGLE.0ANGLE.0MEASURED ANGLE.0SPHERICAL ANGLE.0DIVIDES.1OES NOT DIVIDE.
0PARALLEL TO.0NOT PARALLEL TO.0LOGICAL AND.8o.0INTERSECy.0UNION.0INTEGRAL.0dINTEGRAL.
0TRIPLE INTEGRAL.0CONTOUR INTEGRAL.0SURFACE INTEGRAL.0VOLUME INTEGRAL.0CLOCKWISE INTEGRAL.
ACONTOUR INTEGRAL.0ANTICLOCKWISE CONTOUR INTEGRAL.0THEREFoE.0BECAUSE.0RATIO.0PROPoy.0DOT MINUS.
0EXCESS.0GEOMETRIC PROPoy.0HOMOTHETIC.0TILDE OPERATo.0REVERSED TILDE.0INVERTED LAZY S.
0SINE WAVE.0WREATH PRODUCT.0NOT TILDE.0MINUS TILDE.0ASYMPTOTICALLY EQUAL TO.
0NOT ASYMPTOTICALLY EQUAL TO.0APPROXIMATELY EQUAL TO.EBUT NOT ACTUALLY EQUAL TO.
0NEITHER APPROXIMATELY No ACTUALLY EQUAL TO.0ALMOST EQUAL TO.0NOT ALMOST EQUAL TO.
0ALMOST EQUAL o EQUAL TO.0TRIPLE TILDE.0ALL EQUAL TO.0EQUIVALENT TO.
0GEOMETRICALLY EQUIVALENT TO.0DIFFERENCE BETWEEN.0APPROACHES THE LIMIT.0GEOMETRICALLY EQUAL TO.
0APPROXIMATELY EQUAL TO o THE IMAGE OF.0IMAGE OF o APPROXIMATELY EQUAL TO.0COLON EQUALS.
0EQUALS COLON.0Rg IN EQUAL TO.5EQUAL TO.0CoRESPONDS TO.0ESTIMATES.1QUIANGULAR TO.0STAR EQUALS.
0DELTA EQUAL TO.0EQUAL TO BY DEFINIy.0MEASURED BY.0QUESyED EQUAL TO.0NOT EQUAL TO.0IDENTICAL TO.
0NOT IDENTICAL TO.0STRICTLY EQUIVALENT TO.0LESS-THAN o EQUAL TO.0GREATER-THAN o EQUAL TO.
0LESS-THAN OVER EQUAL TO.0GREATER-THAN OVER EQUAL TO.0LESS-THAN BUT NOT EQUAL TO.
0GREATER-THAN BUT NOT EQUAL TO.0MUCH LESS-THAN.5GREATER-THAN.0BETWEEN.0NOT EQUIVALENT TO.
4LESS-THAN.4GREATER-THAN.1EITHER LESS-THAN No EQUAL TO.8GREATER-THAN No EQUAL TO.
0LESS-THAN o EQUIVALENT TO.0GREATER-THAN o EQUIVALENT TO.0NEITHER LESS-THAN No EQUIVALENT TO.
8GREATER-THAN No EQUIVALENT TO.0LESS-THAN o GREATER-THAN.0GREATER-THAN o LESS-THAN.
0NEITHER LESS-THAN No GREATER-THAN.8GREATER-THAN No LESS-THAN.0PRECEDES.0SUCCEEDS.
0PRECEDES o EQUAL TO.0SUCCEEDS o EQUAL TO.0PRECEDES o EQUIVALENT TO.0SUCCEEDS o EQUIVALENT TO.
0DOES NOT PRECEDE.9SUCCEED.0SUBSET OF.2PERSET OF.0NOT A SUBSET OF.8PERSET OF.
0SUBSET OF o EQUAL TO.2PERSET OF o EQUAL TO.0NEITHER A SUBSET OF No EQUAL TO.
CPERSET OF No EQUAL TO.0SUBSET OFwNOT EQUAL TO.2PERSET OFwNOT EQUAL TO.0MULTISET.8 MULTIPLICAy.
9UNION.0SQUARE IMAGE OF.7oIGINAL OF.7IMAGE OF o EQUAL TO.7oIGINAL OF o EQUAL TO.7CAP.8UP.
0nD PLUS.8MINUS.8TIMES.8DIVISION SLASH.9OT OPERATo.8Rg OPERATo.8ASTERISK OPERATo.8EQUALS.8DASH.
0SQUARED PLUS.8MINUS.8TIMES.8DOT OPERATo.0h TACK.0t TACK.0DOWN TACK.0UP TACK.0ASSERy.0MODELS.
0TRUE.0FoCES.0TRIPLE qBAR h TURNSTILE.0dqBAR dh TURNSTILE.2ES NOT PROVE.0NOT TRUE.
0DOES NOT FoCE.0NEGATED dqBAR dh TURNSTILE.0PRECEDES UNDER RELAy.0SUCCEEDS UNDER RELAy.
0NoMAL SUBGROUP OF.0CONTAINS AS NoMAL SUBGROUP.0NoMAL SUBGROUP OF o EQUAL TO.
0CONTAINS AS NoMAL SUBGROUP o EQUAL TO.0oIGINAL OF.0IMAGE OF.0MULTIMAP.
0HERMITIAN CONJUGATE MATRIX.0INTERCALATE.0Xo.0NAND.1o.0h ANGLEwARC.6k.0N-ARY LOGICAL AND.Eo.
6INTERSECy.6UNION.0DIAMOND OPERATo.1OT OPERATo.0STAR OPERATo.0DIVISION TIMES.0BOWTIE.
0t NoMAL FACTo SEMIDIRECT PRODUCT.0h NoMAL FACTo SEMIDIRECT PRODUCT.0t SEMIDIRECT PRODUCT.
0h SEMIDIRECT PRODUCT.1EVERSED TILDE EQUALS.0CURLY LOGICAL o.EAND.0dSUBSET.9PERSET.7INTERSECy.
7UNION.0PITCHFoK.0EQUALaPARALLEL TO.0LESS-THANwDOT.0GREATER-THANwDOT.0VERY MUCH LESS-THAN.
AGREATER-THAN.0LESS-THAN EQUAL TO o GREATER-THAN.0GREATER-THAN EQUAL TO o LESS-THAN.
0EQUAL TO o LESS-THAN.CGREATER-THAN.CPRECEDES.CSUCCEEDS.0DOES NOT PRECEDE o EQUAL.
9SUCCEED o EQUAL.0NOT SQUARE IMAGE OF o EQUAL TO.BoIGINAL OF o EQUAL TO.
0SQUARE IMAGE OF o NOT EQUAL TO.7oIGINAL OF o NOT EQUAL TO.0LESS-THAN BUT NOT EQUIVALENT TO.
0GREATER-THAN BUT NOT EQUIVALENT TO.0PRECEDES BUT NOT EQUIVALENT TO.
0SUCCEEDS BUT NOT EQUIVALENT TO.0NOT NoMAL SUBGROUP OF.0DOES NOT CONTAIN AS NoMAL SUBGROUP.
0NOT NoMAL SUBGROUP OF o EQUAL TO.0DOES NOT CONTAIN AS NoMAL SUBGROUP o EQUAL.0qELLIPSIS.
0MIDLINE HoIZONTAL ELLIPSIS.0UP h DIAGONAL ELLIPSIS.0DOWN h DIAGONAL ELLIPSIS.
0ELEMENT OFwLONG HoIZONTAL STROKE.GqBAR AT END OF HoIZONTAL STROKE.
0mELEMENT OFwqBAR AT END OF HoIZONTAL STROKE.0ELEMENT OFwDOTe.GOVERBAR.0mELEMENT OFwOVERBAR.
0ELEMENT OFwUNDERBAR.GTWO HoIZONTAL STROKES.0CONTAINSwLONG HoIZONTAL STROKE.
EqBAR AT END OF HoIZONTAL STROKE.0mCONTAINSwqBAR AT END OF HoIZONTAL STROKE.0CONTAINSwOVERBAR.
0mCONTAINSwOVERBAR.0Z NOTAy BAG MEMBERSHIP.0DIAMETERx.0ELECTRIC r.0HOUSE.0UP rHEAD.0DOWN rHEAD.
0PROJECTIVE.1ERSPECTIVE.0WAVY LINE.0t CEILg.0h CEILg.0t FLOo.0h FLOo.0BOTTOM h CROP.7t CROP.
0TOP h CROP.4t CROP.0REVERSED NOTx.0SQUARE LOZENGE.0ARC.0SEGMENT.2CTo.0TELEPHONE RECoDER.
0POSIy INDICATo.0VIEWDATA SQUARE.0PLACE OF INTERESTx.0TURNED NOTx.0WATCH.0HOURGLASS.
0TOP t CoNER.4h CoNER.0BOTTOM t CoNER.7h CoNER.0TOP HALF INTEGRAL.0BOTTOM HALF INTEGRAL.0FROWN.
0SMILE.0UP rHEAD BETWEEN TWO HoIZONTAL BARS.0OPy KEY.0ERASE TO THE h.0X IN A RECTANGLE BOX.
0KEYBOARD.0t-zANGLE BRACKET.0h-zANGLE BRACKET.0ERASE TO THE t.0BENZENE Rg.0CYLINDRICITY.
0ALL AROUND-PROFILE.0SYMMETRY.0TOTAL RUNOUT.0DIMENSION oIGIN.0CONICAL TAPER.0SLOPE.0COUNTERBoE.
7SINK.0APL FUNCyALp I-BEAM.MSQUISH QUAD.MQUAD EQUAL.RDIVIDE.TAMOND.RJOT.Rn.Mn STILE.TJOT.
MSLASH BAR.MBACKSLASH BAR.MQUAD SLASH.RBACKSLASH.RLESS-THAN.RGREATER-THAN.MtuVANE.MhuVANE.
MQUAD tur.Rhur.Mn BACKSLASH.MDOWN TACK UNDERBAR.NELTA STILE.MQUAD DOWN CARET.SELTA.
MDOWN TACK JOT.MUPuVANE.MQUAD UPur.MUP TACK OVERBAR.MDEL STILE.MQUAD UP CARET.RDEL.MUP TACK JOT.
MDOWNuVANE.MQUAD DOWNur.OOTE UNDERBAR.MDELTA UNDERBAR.NIAMOND UNDERBAR.MJOT UNDERBAR.
Mn UNDERBAR.MUP SHOE JOT.MQUOTE QUAD.Mn STAR.MQUAD COLON.MUP TACK DIAERESIS.MDEL DIAERESIS.
MSTAR DIAERESIS.MJOT DIAERESIS.Mn DIAERESIS.MDOWN SHOE STILE.Mt SHOE STILE.MTILDE DIAERESIS.
MGREATER-THAN DIAERESIS.MCOMMA BAR.MDEL TILDE.MZILDE.MSTILE TILDE.NEMICOLON UNDERBAR.
MQUAD NOT EQUAL.RQUESy.MDOWN CARET TILDE.MUP CARET TILDE.MIOTA.MRHO.MOMEGA.MALPHA UNDERBAR.
MEPSILON UNDERBAR.MIOTA UNDERBAR.MOMEGA UNDERBAR.MALPHA.0NOT CHECK MARK.0h ANGLEwDOWNuZIGZAG r.
0SHOULDERED OPEN BOX.0BELLp.0qLINEwMIDDLE DOT.0INSERyp.0CONTINUOUS UNDERLINEp.
0DISCONTINUOUS UNDERLINEp.0EMPHASISp.0COMPOSIyp.0WHITE SQUAREwCENTRE qLINE.0ENTERp.
0ALTERNATIVE KEYp.0HELMp.0nD HoIZONTAL BARwNOTCH.8k DOWN.0BROKEN nwNoTHWEST r.0UNDOp.
0MONOSTABLEp.0HYSTERESISp.0OPEN-CIRCUIT-OUTPUT H-TYPEp.KL-TYPEp.0PASSIVE-PULL-DOWN-OUTPUTp.
DUP-OUTPUTp.0DIRECT CURRENTp FoM TWO.0SOFTWARE-FUNCyp.0APL FUNCyALp QUAD.0DECIMAL SEPARATo KEYp.
0PREVIOUS PAGE.0NEXT PAGE.0PRINT SCREENp.0CLEAR SCREENp.0t PARENTHESIS UPPER HOOK.HEXTENSION.
HLOWER HOOK.0h PARENTHESIS UPPER HOOK.IEXTENSION.ILOWER HOOK.0t SQUARE BRACKET UPPER CoNER.
KEXTENSION.KLOWER CoNER.0h SQUARE BRACKET UPPER CoNER.LEXTENSION.LLOWER CoNER.
0t CURLY BRACKET UPPER HOOK.JMIDDLE PIECE.JLOWER HOOK.0CURLY BRACKET EXTENSION.
0h CURLY BRACKET UPPER HOOK.KMIDDLE PIECE.KLOWER HOOK.0INTEGRAL EXTENSION.
0HoIZONTAL LINE EXTENSION.0UPPER t o LOWER h CURLY BRACKET SECy.6h o LOWER t CURLY BRACKET SECy.
0SUMMAy TOP.ABOTTOM.0TOP SQUARE BRACKET.0BOTTOM SQUARE BRACKET.L OVER TOP SQUARE BRACKET.
0RADICALp BOTTOM.0t qBOX LINE.0h qBOX LINE.0HoIZONTAL SCAN LINE-1.L3.L7.L9.
0DENTISTRYp LIGHT qAND TOP h.Z BOTTOM h.WWITH n.NDOWNaHoIZONTALwn.NUPaHoIZONTALwn.NqWITH k.
NDOWNaHoIZONTALwk.NUPaHoIZONTALwk.NqAND WAVE.NDOWNaHoIZONTALwWAVE.NUPaHoIZONTALwWAVE.
NDOWNaHoIZONTAL.NUPaHoIZONTAL.NqAND TOP t.Z BOTTOM t.0SQUARE FOOT.0RETURNp.0EJECTp.
0qLINE EXTENSION.0METRICAL BREVE.9LONG OVER SHoT.9SHoT OVER LONG.9LONG OVER TWO SHoTS.
9TWO SHoTS OVER LONG.KJOINED.ARISEME.AETRASEME.9PENTASEME.0EARTH GROUND.0FUSE.0TOP PARENTHESIS.
0BOTTOM PARENTHESIS.0TOP CURLY BRACKET.0BOTTOM CURLY BRACKET.0TOP ToTOISE SHELL BRACKET.
0BOTTOM ToTOISE SHELL BRACKET.0WHITE TRAPEZIUM.0BENZENE Rgwn.0STRAIGHTNESS.0FLATNESS.
0AC CURRENT.0ELECTRICAL INTERSECy.0DECIMAL EXPONENTp.0BLACK h-zdk.6t-zdk.6UP-zdk.6DOWN-zdk.
6h-zdkwqBAR.6t-zdkwqBAR.6h-zkwdqBAR.0ALARM CLOCK.0STOPWATCH.0TIMER CLOCK.0HOURGLASSwFLOWg SAND.
0BLACK MEDIUM t-zk.Dh-zk.DUP-zk.DDOWN-zk.0dqBAR.0BLACK SQUARE Fo STOP.6n Fo RECoD.0POWERp.
6ON-OFFp.8p.6SLEEPp.0OBSERVER EYEp.0SYMBOL Fo NULL.BSTART OF HEADg.KTEXT.BEND OF TEXT.
JRANSMISSION.DQUIRY.BACKNOWLEDGE.BBELL.CACKSPACE.BHoIZONTAL TABULAy.BLINE FEED.BqTABULAy.
BFoM FEED.BCARRIAGE RETURN.BSHIFT OUT.HIN.BDATA LINK ESCAPE.CEVICE CONTROL ONE.QTWO.RHREE.QFOUR.
BNEGATIVE ACKNOWLEDGE.BSYNCHRONOUS IDLE.BEND OF TRANSMISSION BLOCK.BCANCEL.BEND OF MEDIUM.
BSUBSTITUTE.BESCAPE.BFILE SEPARATo.BGROUP SEPARATo.BRECoD SEPARATo.BUNIT SEPARATo.BSPACE.
BDELETE.0BLANKp.0OPEN BOX.0SYMBOL Fo NEWLINE.BDELETE FoM TWO.BSUBSTITUTE FoM TWO.@2440.
0OCR HOOK.4CHAIR.4FoK.4INVERTED FoK.4BELT BUCKLE.5OW TIE.5RANCH BANK IDENTIFICAy.
4AMOUNT OF CHECK.4DASH.4CUSTOMER ACCOUNT NUMBER.4dBACKSLASH.@2460.0nD DIGIT ONE.ETWO.FHREE.
EFOUR.FIVE.ESIX.FEVEN.EEIGHT.ENINE.8NUMBER TEN.FELEVEN.FTWELVE.GHIRTEEN.FFOURTEEN.GIFTEEN.
FSIXTEEN.GEVENTEEN.FEIGHTEEN.FNINETEEN.FTWENTY.0PARENTHESIZED DIGIT ONE.KTWO.LHREE.KFOUR.LIVE.
KSIX.LEVEN.KEIGHT.KNINE.ENUMBER TEN.LELEVEN.LTWELVE.MHIRTEEN.LFOURTEEN.MIFTEEN.LSIXTEEN.
MEVENTEEN.LEIGHTEEN.LNINETEEN.LTWENTY.0DIGIT ONE FULL STOP.6TWO FULL STOP.7HREE FULL STOP.
6FOUR FULL STOP.7IVE FULL STOP.6SIX FULL STOP.7EVEN FULL STOP.6EIGHT FULL STOP.6NINE FULL STOP.
0NUMBER TEN FULL STOP.7ELEVEN FULL STOP.7TWELVE FULL STOP.8HIRTEEN FULL STOP.
7FOURTEEN FULL STOP.8IFTEEN FULL STOP.7SIXTEEN FULL STOP.8EVENTEEN FULL STOP.
7EIGHTEEN FULL STOP.7NINETEEN FULL STOP.7TWENTY FULL STOP.0PARENTHESIZED LATIN sA.XB.XC.XD.XE.
XF.XG.XH.XI.XJ.XK.XL.XM.XN.XO.XP.XQ.XR.XS.XT.XU.XV.XW.XX.XY.XZ.0nD LATIN cA.TB.TC.TD.TE.TF.TG.
TH.TI.TJ.TK.TL.TM.TN.TO.TP.TQ.TR.TS.TT.TU.TV.TW.TX.TY.TZ.EsA.RB.RC.RD.RE.RF.RG.RH.RI.RJ.RK.RL.
RM.RN.RO.RP.RQ.RR.RS.RT.RU.RV.RW.RX.RY.RZ.8DIGIT ZERO.0NEGATIVE nD NUMBER ELEVEN.OTWELVE.
PHIRTEEN.OFOURTEEN.PIFTEEN.OSIXTEEN.PEVENTEEN.OEIGHTEEN.ONINETEEN.OTWENTY.0dnD DIGIT ONE.LTWO.
MHREE.LFOUR.MIVE.LSIX.MEVEN.LEIGHT.LNINE.FNUMBER TEN.0NEGATIVE nD DIGIT ZERO.
0BOX DRAWgS LIGHT HoIZONTAL.DHEAVY HoIZONTAL.DLIGHT VERTICAL.DHEAVY VERTICAL.
DLIGHT TRIPLE DASH HoIZONTAL.DHEAVY TRIPLE DASH HoIZONTAL.DLIGHT TRIPLE DASH VERTICAL.
DHEAVY TRIPLE DASH VERTICAL.DLIGHT QUADRUPLE DASH HoIZONTAL.DHEAVY QUADRUPLE DASH HoIZONTAL.
DLIGHT QUADRUPLE DASH VERTICAL.DHEAVY QUADRUPLE DASH VERTICAL.DLIGHT DOWNah.DDOWN LIGHTah HEAVY.
IHEAVYah LIGHT.DHEAVY DOWNah.DLIGHT DOWNat.DDOWN LIGHTat HEAVY.IHEAVYat LIGHT.DHEAVY DOWNat.
DLIGHT UPah.DUP LIGHTah HEAVY.GHEAVYah LIGHT.DHEAVY UPah.DLIGHT UPat.DUP LIGHTat HEAVY.
GHEAVYat LIGHT.DHEAVY UPat.DLIGHT qAND h.DqLIGHTah HEAVY.DUP HEAVYah DOWN LIGHT.
DDOWN HEAVYah UP LIGHT.DqHEAVYah LIGHT.DDOWN LIGHTah UP HEAVY.DUP LIGHTah DOWN HEAVY.
DHEAVY qAND h.DLIGHT qAND t.DqLIGHTat HEAVY.DUP HEAVYat DOWN LIGHT.DDOWN HEAVYat UP LIGHT.
DqHEAVYat LIGHT.DDOWN LIGHTat UP HEAVY.DUP LIGHTat DOWN HEAVY.DHEAVY qAND t.
DLIGHT DOWNaHoIZONTAL.EEFT HEAVYah DOWN LIGHT.Dh HEAVYat DOWN LIGHT.DDOWN LIGHTaHoIZONTAL HEAVY.
IHEAVYaHoIZONTAL LIGHT.Dh LIGHTat DOWN HEAVY.Dt LIGHTah DOWN HEAVY.DHEAVY DOWNaHoIZONTAL.
DLIGHT UPaHoIZONTAL.EEFT HEAVYah UP LIGHT.Dh HEAVYat UP LIGHT.DUP LIGHTaHoIZONTAL HEAVY.
GHEAVYaHoIZONTAL LIGHT.Dh LIGHTat UP HEAVY.Dt LIGHTah UP HEAVY.DHEAVY UPaHoIZONTAL.
DLIGHT qAND HoIZONTAL.EEFT HEAVYah qLIGHT.Dh HEAVYat qLIGHT.DqLIGHTaHoIZONTAL HEAVY.
DUP HEAVYaDOWN HoIZONTAL LIGHT.DDOWN HEAVYaUP HoIZONTAL LIGHT.DqHEAVYaHoIZONTAL LIGHT.
Dt UP HEAVYah DOWN LIGHT.Dh UP HEAVYat DOWN LIGHT.Dt DOWN HEAVYah UP LIGHT.
Dh DOWN HEAVYat UP LIGHT.DDOWN LIGHTaUP HoIZONTAL HEAVY.DUP LIGHTaDOWN HoIZONTAL HEAVY.
Dh LIGHTat qHEAVY.Dt LIGHTah qHEAVY.DHEAVY qAND HoIZONTAL.DLIGHT dDASH HoIZONTAL.
DHEAVY dDASH HoIZONTAL.DLIGHT dDASH VERTICAL.DHEAVY dDASH VERTICAL.DdHoIZONTAL.KVERTICAL.
FWN SgLEah DOUBLE.IdAND h SgLE.FUBLE DOWNah.FWN SgLEat DOUBLE.IdAND t SgLE.FUBLE DOWNat.
DUP SgLEah DOUBLE.GdAND h SgLE.DdUPah.DUP SgLEat DOUBLE.GdAND t SgLE.DdUPat.DqSgLEah DOUBLE.
MdAND h SgLE.DdqAND h.DqSgLEat DOUBLE.MdAND t SgLE.DdqAND t.FWN SgLEaHoIZONTAL DOUBLE.
IdAND HoIZONTAL SgLE.FUBLE DOWNaHoIZONTAL.DUP SgLEaHoIZONTAL DOUBLE.GdAND HoIZONTAL SgLE.
DdUPaHoIZONTAL.DqSgLEaHoIZONTAL DOUBLE.MdAND HoIZONTAL SgLE.DdqAND HoIZONTAL.DLIGHT ARC DOWNah.
Wt.NUPat.Uh.JDIAGONAL UPPER h TO LOWER t.Yt TO LOWER h.SCROSS.Jt.JUP.Jh.JDOWN.DHEAVY t.JUP.Jh.
JDOWN.DLIGHT taHEAVY h.JUPaHEAVY DOWN.DHEAVY taLIGHT h.JUPaLIGHT DOWN.0UPPER HALF BLOCK.
0LOWER ONE EIGHTH BLOCK.AQUARTER BLOCK.6THREE EIGHTHS BLOCK.6HALF BLOCK.6FIVE EIGHTHS BLOCK.
6THREE QUARTERS BLOCK.6SEVEN EIGHTHS BLOCK.0FULL BLOCK.0t SEVEN EIGHTHS BLOCK.
5THREE QUARTERS BLOCK.5FIVE EIGHTHS BLOCK.5HALF BLOCK.5THREE EIGHTHS BLOCK.5ONE QUARTER BLOCK.
9EIGHTH BLOCK.0h HALF BLOCK.0LIGHT SHADE.0MEDIUM SHADE.0DARK SHADE.0UPPER ONE EIGHTH BLOCK.
0h ONE EIGHTH BLOCK.0QUADRANT LOWER t.Fh.9UPPER t.JaLOWER taLOWER h.Uh.OUPPER haLOWER t.
ZaLOWER h.Fh.KaLOWER t.ZaLOWER h.0BLACK SQUARE.0WHITE SQUARE.CwROUNDED CoNERS.
DCONTAINg BLACK mSQUARE.0SQUAREwHoIZONTAL FILL.CqFILL.CoTHOGONAL CROSSHATCH FILL.
CUPPER t TO LOWER h FILL.Ih TO LOWER t FILL.CDIAGONAL CROSSHATCH FILL.0BLACK mSQUARE.
0WHITE mSQUARE.0BLACK RECTANGLE.0WHITE RECTANGLE.0BLACK qRECTANGLE.0WHITE qRECTANGLE.
0BLACK PARALLELOGRAM.0WHITE PARALLELOGRAM.0BLACK UP-zk.0WHITE UP-zk.0BLACK UP-zmk.0WHITE UP-zmk.
0BLACK h-zk.0WHITE h-zk.0BLACK h-zmk.0WHITE h-zmk.0BLACK h-zPOINTER.0WHITE h-zPOINTER.
0BLACK DOWN-zk.0WHITE DOWN-zk.0BLACK DOWN-zmk.0WHITE DOWN-zmk.0BLACK t-zk.0WHITE t-zk.
0BLACK t-zmk.0WHITE t-zmk.0BLACK t-zPOINTER.0WHITE t-zPOINTER.0BLACK DIAMOND.0WHITE DIAMOND.
D CONTAINg BLACK mDIAMOND.0FISHEYE.0LOZENGE.0WHITE n.0DOTTED n.0nwqFILL.0BULLSEYE.1LACK n.
0nwt HALF BLACK.Ch HALF BLACK.CLOWER HALF BLACK.CUPPER HALF BLACK.Ih QUADRANT BLACK.
CALL BUT UPPER t QUADRANT BLACK.0t HALF BLACK n.0h HALF BLACK n.0INVERSE BULLET.8WHITE n.
0UPPER HALF INVERSE WHITE n.0LOWER HALF INVERSE WHITE n.0UPPER t QUADRANT CIRCULAR ARC.
6h QUADRANT CIRCULAR ARC.0LOWER h QUADRANT CIRCULAR ARC.6t QUADRANT CIRCULAR ARC.0UPPER HALF n.
0LOWER HALF n.0BLACK LOWER h k.Ct k.6UPPER t k.Ch k.0WHITE BULLET.0SQUAREwt HALF BLACK.
Ch HALF BLACK.CUPPER t DIAGONAL HALF BLACK.CLOWER h DIAGONAL HALF BLACK.
0WHITE SQUAREwqBISECTg LINE.6UP-zkwDOT.0UP-zkwt HALF BLACK.Qh HALF BLACK.0LARGE n.
0WHITE SQUAREwUPPER t QUADRANT.ILOWER t QUADRANT.Oh QUADRANT.IUPPER h QUADRANT.
6nwUPPER t QUADRANT.ILOWER t QUADRANT.Oh QUADRANT.IUPPER h QUADRANT.0UPPER t k.6h k.0LOWER t k.
0WHITE MEDIUM SQUARE.0BLACK MEDIUM SQUARE.0WHITE MEDIUM mSQUARE.0BLACK MEDIUM mSQUARE.
0LOWER h k.0BLACK SUNwRAYS.0CLOUD.0UMBRELLA.0SNOWMAN.0COMET.0BLACK STAR.0WHITE STAR.0LIGHTNg.
0THUNDERSToM.0SUN.0ASCENDg NODE.0DESCENDg NODE.0CONJUNCy.0OPPOSIy.0BLACK TELEPHONE.
0WHITE TELEPHONE.0BALLOT BOX.AwCHECK.GX.0SALTIRE.0UMBRELLAwRAIN DROPS.0HOT BEVERAGE.
0WHITE SHOGI PIECE.0BLACK SHOGI PIECE.0SHAMROCK.0REVERSED ROTATED FLoAL HEART BULLET.
0BLACK t zINDEX.6h zINDEX.0WHITE t zINDEX.6UP zINDEX.6h zINDEX.6DOWN zINDEX.0SKULLaCROSSBONES.
0CAUyx.0RADIOACTIVEx.0BIOHAZARDx.0CADUCEUS.0ANKH.0oTHODOX CROSS.0CHI RHO.1ROSS OF LoRAINE.
9JERUSALEM.0STARaCRESCENT.0FARSIp.0ADI SHAKTI.0HAMMERaSICKLE.0PEACEp.0YIN YANG.
0TRIGRAM Fo HEAVEN.CLAKE.CFIRE.CTHUNDER.CWIND.DATER.CMOUNTAIN.CEARTH.0WHEEL OF DHARMA.
2ITE FROWNg FACE.6SMILg FACE.0BLACK SMILg FACE.0WHITE SUNwRAYS.0FIRST QUARTER MOON.
0LAST QUARTER MOON.0MERCURY.0FEMALEx.0EARTH.0MALEx.0JUPITER.0SATURN.0URANUS.0NEPTUNE.0PLUTO.
0ARIES.0TAURUS.0GEMINI.0CANCER.0LEO.0VIRGO.0LIBRA.0SCoPIUS.1AGITTARIUS.0CAPRICoN.0AQUARIUS.
0PISCES.0WHITE CHESS Kg.CQUEEN.CROOK.CBISHOP.CKNIGHT.CPAWN.0BLACK CHESS Kg.CQUEEN.CROOK.CBISHOP.
CKNIGHT.CPAWN.6SPADE SUIT.0WHITE HEART SUIT.6DIAMOND SUIT.0BLACK CLUB SUIT.0WHITE SPADE SUIT.
0BLACK HEART SUIT.6DIAMOND SUIT.0WHITE CLUB SUIT.0HOT SPRgS.0QUARTER NOTE.0EIGHTH NOTE.
0BEAMED EIGHTH NOTES.7SIXTEENTH NOTES.0MUSIC FLATx.6NATURALx.6SHARPx.0WEST SYRIAC CROSS.
0EAST SYRIAC CROSS.0UNIVERSAL RECYCLgp.0RECYCLgp Fo TYPE-1 PLASTICS.Q2 PLASTICS.Q3 PLASTICS.
Q4 PLASTICS.Q5 PLASTICS.Q6 PLASTICS.Q7 PLASTICS.LGENERIC MATERIALS.0BLACK UNIVERSAL RECYCLgp.
0RECYCLED PAPERp.0PARTIALLY-RECYCLED PAPERp.1ERMANENT PAPERx.0WHEELCHAIRp.0DIE FACE-1.92.93.94.
95.96.0WHITE nwDOT h.ITWO DOTS.0BLACK nwWHITE DOT h.ITWO WHITE DOTS.0MONOGRAM Fo YANG.EIN.
0DIGRAM Fo GREATER YANG.BLESSER YIN.JANG.BGREATER YIN.0WHITE FLAG.0BLACK FLAG.0HAMMERaPICK.
0ANCHo.0CROSSED SWoDS.0STAFF OF AESCULAPIUS.1CALES.0ALEMBIC.0FLOWER.0GEAR.0STAFF OF HERMES.
0ATOMp.0FLEUR-DE-LIS.0OUTLINED WHITE STAR.0THREE LINES CONVERGg h.Nt.0WARNgx.0HIGH VOLTAGEx.
0DOUBLED FEMALEx.8MALEx.0INTERLOCKED FEMALEaMALEx.0MALEaFEMALEx.5WITH STROKEx.HAND MALEaFEMALEx.
0qMALEwSTROKEx.0HoIZONTAL MALEwSTROKEx.0MEDIUM WHITE n.7BLACK n.7mWHITE n.1ARRIAGEp.0DIVoCEp.
0UNMARRIED PARTNERSHIPp.0COFFIN.0FUNERAL URN.0NEUTER.0CERES.0PALLAS.0JUNO.0VESTA.0CHIRON.
0BLACK MOON LILITH.0SEXTILE.2MISEXTILE.0QUINCUNX.0SESQUIQUADRATE.1OCCER BALL.0BASEBALL.
0SQUARED KEY.0WHITE DRAUGHTS MAN.FKg.0BLACK DRAUGHTS MAN.FKg.0SNOWMAN WITHOUT SNOW.
1UN BEHIND CLOUD.0RAIN.0BLACK SNOWMAN.0THUNDER CLOUDaRAIN.1URNED WHITE SHOGI PIECE.
7BLACK SHOGI PIECE.0WHITE DIAMOND IN SQUARE.0CROSSg LANES.0DISABLED CAR.0OPHIUCHUS.0PICK.
0CAR SLIDg.0HELMETwWHITE CROSS.0nD CROSSg LANES.1HAINS.0NO ENTRY.
0ALTERNATE ONE-WAY t WAY TRAFFIC.0BLACK TWO-WAY t WAY TRAFFIC.0WHITE TWO-WAY t WAY TRAFFIC.
0BLACK t LANE MERGE.0WHITE t LANE MERGE.0DRIVE SLOWx.0HEAVY WHITE DOWN-zk.0t CLOSED ENTRY.
0SQUARED SALTIRE.0FALLg DIAGONAL IN WHITE n IN BLACK SQUARE.0BLACK TRUCK.0RESTRICTED t ENTRY-1.
M2.0ASTRONOMICALp Fo URANUS.0HEAVY nwSTROKEaTWO DOTSe.0PENTAGRAM.0h-HANDED INTERLACED PENTAGRAM.
0t-HANDED INTERLACED PENTAGRAM.0INVERTED PENTAGRAM.0BLACK CROSS ON SHIELD.0SHINTO SHRINE.
0CHURCH.1ASTLE.0HISToIC SITE.0GEAR WITHOUT HUB.9 HANDLES.0MAPp Fo LIGHTHOUSE.1OUNTAIN.
0UMBRELLA ON GROUND.0FOUNTAIN.1LAG IN HOLE.1ERRY.0SAILBOAT.1QUARE FOUR CoNERS.1KIER.0ICE SKATE.
0PERSONwBALL.0TENT.0JAPANESE BANKp.0HEADSTONE GRAVEYARDp.0FUEL PUMP.0CUP ON BLACK SQUARE.
0WHITE FLAGwHoIZONTAL MIDDLE BLACK STRIPE.0BLACK SAFETY SCISSoS.0UPPER BLADE SCISSoS.
0BLACK SCISSoS.0LOWER BLADE SCISSoS.0WHITE SCISSoS.6HEAVY CHECK MARK.0TELEPHONE LOCAyx.
1APE DRIVE.0AIRPLANE.0ENVELOPE.0RAISED FIST.7HAND.0VICToY HAND.0WRITg HAND.0LOWER h PENCIL.
0PENCIL.0UPPER h PENCIL.0WHITE NIB.0BLACK NIB.0CHECK MARK.0HEAVY CHECK MARK.0MULTIPLICAy X.
0HEAVY MULTIPLICAy X.0BALLOT X.0HEAVY BALLOT X.0OUTLINED GREEK CROSS.0HEAVY GREEK CROSS.
0OPEN CENTRE CROSS.0HEAVY OPEN CENTRE CROSS.0LATIN CROSS.0SHADOWED WHITE LATIN CROSS.
0OUTLINED LATIN CROSS.0MALTESE CROSS.0STAR OF DAVID.0FOUR TEARDROP-SPOKED ASTERISK.
5BALLOON-SPOKED ASTERISK.0HEAVY FOUR BALLOON-SPOKED ASTERISK.0FOUR CLUB-SPOKED ASTERISK.
0BLACK FOUR POINTED STAR.0WHITE FOUR POINTED STAR.0SPARKLES.1TRESS OUTLINED WHITE STAR.
0nD WHITE STAR.0OPEN CENTRE BLACK STAR.0BLACK CENTRE WHITE STAR.0OUTLINED BLACK STAR.
0HEAVY OUTLINED BLACK STAR.0PINWHEEL STAR.0SHADOWED WHITE STAR.0HEAVY ASTERISK.
0OPEN CENTRE ASTERISK.0EIGHT SPOKED ASTERISK.6POINTED BLACK STAR.EPINWHEEL STAR.
0SIX POINTED BLACK STAR.0EIGHT POINTED RECTILINEAR BLACK STAR.
0HEAVY EIGHT POINTED RECTILINEAR BLACK STAR.0TWELVE POINTED BLACK STAR.
0SIXTEEN POINTED ASTERISK.0TEARDROP-SPOKED ASTERISK.0OPEN CENTRE TEARDROP-SPOKED ASTERISK.
0HEAVY TEARDROP-SPOKED ASTERISK.0SIX PETALLED BLACKaWHITE FLoETTE.0BLACK FLoETTE.0WHITE FLoETTE.
0EIGHT PETALLED OUTLINED BLACK FLoETTE.0nD OPEN CENTRE EIGHT POINTED STAR.
0HEAVY TEARDROP-SPOKED PINWHEEL ASTERISK.0SNOWFLAKE.0TIGHT TRIFOLIATE SNOWFLAKE.
0HEAVY CHEVRON SNOWFLAKE.0SPARKLE.0HEAVY SPARKLE.0BALLOON-SPOKED ASTERISK.
0EIGHT TEARDROP-SPOKED PROPELLER ASTERISK.0HEAVY EIGHT TEARDROP-SPOKED PROPELLER ASTERISK.
0CROSS MARK.0SHADOWED WHITE n.0NEGATIVE SQUARED CROSS MARK.0LOWER h DROP-SHADOWED WHITE SQUARE.
0UPPER h DROP-SHADOWED WHITE SQUARE.0LOWER h SHADOWED WHITE SQUARE.
0UPPER h SHADOWED WHITE SQUARE.0BLACK QUESy MARK oNAMENT.0WHITE QUESy MARK oNAMENT.
6EXCLAMAy MARK oNAMENT.0BLACK DIAMOND MINUS WHITE X.0HEAVY EXCLAMAy MARKp.0LIGHT qBAR.
0MEDIUM qBAR.0HEAVY qBAR.6SgLE TURNED COMMA QUOTAy MARK oNAMENT.DCOMMA QUOTAy MARK oNAMENT.
6dTURNED COMMA QUOTAy MARK oNAMENT.DCOMMA QUOTAy MARK oNAMENT.
6LOW SgLE COMMA QUOTAy MARK oNAMENT.AdCOMMA QUOTAy MARK oNAMENT.0CURVED STEM PARAGRAPHx oNAMENT.
0HEAVY EXCLAMAy MARK oNAMENT.6HEART EXCLAMAy MARK oNAMENT.6BLACK HEART.
0ROTATED HEAVY BLACK HEART BULLET.0FLoAL HEART.0ROTATED FLoAL HEART BULLET.
0MEDIUM t PARENTHESIS oNAMENT.7h PARENTHESIS oNAMENT.7FLATTENED t PARENTHESIS oNAMENT.
Hh PARENTHESIS oNAMENT.7t-zANGLE BRACKET oNAMENT.7h-zANGLE BRACKET oNAMENT.
0HEAVY t-zANGLE QUOTAy MARK oNAMENT.6h-zANGLE QUOTAy MARK oNAMENT.6t-zANGLE BRACKET oNAMENT.
6h-zANGLE BRACKET oNAMENT.0LIGHT t ToTOISE SHELL BRACKET oNAMENT.
6h ToTOISE SHELL BRACKET oNAMENT.0MEDIUM t CURLY BRACKET oNAMENT.7h CURLY BRACKET oNAMENT.
0DgBAT NEGATIVE nD DIGIT ONE.VTWO.WHREE.VFOUR.WIVE.VSIX.WEVEN.VEIGHT.VNINE.PNUMBER TEN.
8nD SANS-SERIF DIGIT ONE.XTWO.YHREE.XFOUR.YIVE.XSIX.YEVEN.XEIGHT.XNINE.RNUMBER TEN.
8NEGATIVE nD SANS-SERIF DIGIT ONE.Z DIGIT TWO.Z DIGIT THREE.Z DIGIT FOUR.Z DIGIT FIVE.
Z DIGIT SIX.Z DIGIT SEVEN.Z DIGIT EIGHT.Z DIGIT NINE.Z NUMBER TEN.0HEAVY WIDE-HEADED hur.6PLUSx.
6MINUSx.6DIVISIONx.6SOUTH EAST r.6hur.6NoTH EAST r.0DRAFTg POINT hur.0HEAVY ROUND-TIPPED hur.
0k-HEADED hur.0HEAVY k-HEADED hur.0DASHED k-HEADED hur.0HEAVY DASHED k-HEADED hur.0BLACK hur.
0THREE-D TOP-LIGHTED hurHEAD.8BOTTOM-LIGHTED hurHEAD.0BLACK hurHEAD.
0HEAVY BLACK CURVED DOWNuAND hur.JUPuAND hur.0SQUAT BLACK hur.0HEAVY CONCAVE-POINTED BLACK hur.
0h-SHADED WHITE hur.0t-SHADED WHITE hur.0BACK-TILTED SHADOWED WHITE hur.
0FRONT-TILTED SHADOWED WHITE hur.0HEAVY LOWER h-SHADOWED WHITE hur.6UPPER h-SHADOWED WHITE hur.
0NOTCHED LOWER h-SHADOWED WHITE hur.0CURLY LOOP.0NOTCHED UPPER h-SHADOWED WHITE hur.
0nD HEAVY WHITE hur.0WHITE-FEATHERED hur.0BLACK-FEATHERED SOUTH EAST r.Ghur.GNoTH EAST r.
0HEAVY BLACK-FEATHERED SOUTH EAST r.Mhur.MNoTH EAST r.0TEARDROP-BARBED hur.
0HEAVY TEARDROP-SHANKED hur.0WEDGE-TAILED hur.0HEAVY WEDGE-TAILED hur.0OPEN-OUTLINED hur.
0dCURLY LOOP.0THREE DIMENSIONAL ANGLE.0WHITE k CONTAINg mWHITE k.0PERPENDICULAR.0OPEN SUBSET.
7PERSET.0t S-SHAPED BAG DELIMITER.0h S-SHAPED BAG DELIMITER.0owDOT INSIDE.
0REVERSE SOLIDUS PRECEDg SUBSET.0SUPERSET PRECEDg SOLIDUS.0qBARwHoIZONTAL STROKE.
0MATHEMATICAL RISg DIAGONAL.0LONG DIVISION.0MATHEMATICAL FALLg DIAGONAL.0SQUARED LOGICAL AND.Go.
0WHITE DIAMONDwCENTRED DOT.0ANDwDOT.0ELEMENT OF OPENg UPWARDS.0LOWER h CoNERwDOT.
0UPPER t CoNERwDOT.0t OUTER JOIN.0h OUTER JOIN.0FULL OUTER JOIN.0LARGE UP TACK.6DOWN TACK.
1EFTah dTURNSTILE.FTACK.5MULTIMAP.1ONG h TACK.5t TACK.0UP TACKwne.
0LOZENGE DIVIDED BY HoIZONTAL RULE.0WHITE CONCAVE-SIDED DIAMOND.RwtuTICK.XhuTICK.6SQUAREwtuTICK.
IhuTICK.0MATHEMATICAL t WHITE SQUARE BRACKET.Dh WHITE SQUARE BRACKET.Dt ANGLE BRACKET.
Dh ANGLE BRACKET.Dt dANGLE BRACKET.Dh dANGLE BRACKET.Dt WHITE ToTOISE SHELL BRACKET.
Dh WHITE ToTOISE SHELL BRACKET.Dt FLATTENED PARENTHESIS.Dh FLATTENED PARENTHESIS.
0UPuQUADRUPLE r.0DOWNuQUADRUPLE r.0ANTICLOCKWISE GAPPED n r.0CLOCKWISE GAPPED n r.0h rwnD PLUS.
0LONG tur.5hur.5t h r.9udr.5hudr.5t h dr.9ur FROM BAR.5hur FROM BAR.5tudr FROM BAR.
5hudr FROM BAR.GSQUIGGLE r.0BRAILLE PATTERN BLANK.GDOTS-1.L2.L12.L3.L13.L23.L123.L4.L14.L24.
L124.L34.L134.L234.L1234.L5.L15.L25.L125.L35.L135.L235.L1235.L45.L145.L245.L1245.L345.L1345.
L2345.L12345.L6.L16.L26.L126.L36.L136.L236.L1236.L46.L146.L246.L1246.L346.L1346.L2346.L12346.
L56.L156.L256.L1256.L356.L1356.L2356.L12356.L456.L1456.L2456.L12456.L3456.L13456.L23456.L123456.
L7.L17.L27.L127.L37.L137.L237.L1237.L47.L147.L247.L1247.L347.L1347.L2347.L12347.L57.L157.L257.
L1257.L357.L1357.L2357.L12357.L457.L1457.L2457.L12457.L3457.L13457.L23457.L123457.L67.L167.L267.
L1267.L367.L1367.L2367.L12367.L467.L1467.L2467.L12467.L3467.L13467.L23467.L123467.L567.L1567.
L2567.L12567.L3567.L13567.L23567.L123567.L4567.L14567.L24567.L124567.L34567.L134567.L234567.
L1234567.L8.L18.L28.L128.L38.L138.L238.L1238.L48.L148.L248.L1248.L348.L1348.L2348.L12348.L58.
L158.L258.L1258.L358.L1358.L2358.L12358.L458.L1458.L2458.L12458.L3458.L13458.L23458.L123458.L68.
L168.L268.L1268.L368.L1368.L2368.L12368.L468.L1468.L2468.L12468.L3468.L13468.L23468.L123468.
L568.L1568.L2568.L12568.L3568.L13568.L23568.L123568.L4568.L14568.L24568.L124568.L34568.L134568.
L234568.L1234568.L78.L178.L278.L1278.L378.L1378.L2378.L12378.L478.L1478.L2478.L12478.L3478.
L13478.L23478.L123478.L578.L1578.L2578.L12578.L3578.L13578.L23578.L123578.L4578.L14578.L24578.
L124578.L34578.L134578.L234578.L1234578.L678.L1678.L2678.L12678.L3678.L13678.L23678.L123678.
L4678.L14678.L24678.L124678.L34678.L134678.L234678.L1234678.L5678.L15678.L25678.L125678.L35678.
L135678.L235678.L1235678.L45678.L145678.L245678.L1245678.L345678.L1345678.L2345678.L12345678.
0huTWO-HEADED rwqSTROKE.XdqSTROKE.0tudrwqSTROKE.0hudrwqSTROKE.0t h drwqSTROKE.
0huTWO-HEADED r FROM BAR.0tudr FROM BAR.0hudr FROM BAR.0DOWNurwHoIZONTAL STROKE.
0UPurwHoIZONTAL STROKE.8TRIPLE r.0DOWNuTRIPLE r.0tudDASH r.0hudDASH r.0tuTRIPLE DASH r.
0huTRIPLE DASH r.CWO-HEADED TRIPLE DASH r.BrwDOTTED STEM.0UPur TO BAR.0DOWNur TO BAR.
0hurwTAILwqSTROKE.WdqSTROKE.BTWO-HEADED rwTAIL.ZILwqSTROKE.ZILwdqSTROKE.0tur-TAIL.0hur-TAIL.
0tudr-TAIL.0hudr-TAIL.0tur TO BLACK DIAMOND.0hur TO BLACK DIAMOND.
0tur FROM BAR TO BLACK DIAMOND.0hur FROM BAR TO BLACK DIAMOND.0NoTH WESTaSOUTH EAST r.
6EASTaSOUTH WEST r.6WEST rwHOOK.6EAST rwHOOK.0SOUTH EAST rwHOOK.6WEST rwHOOK.
0NoTH WEST raNoTH EAST r.6EAST raSOUTH EAST r.0SOUTH EAST raSOUTH WEST r.6WEST raNoTH WEST r.
0RISg DIAGONAL CROSSg FALLg DIAGONAL.0FALLg DIAGONAL CROSSg RISg DIAGONAL.
0SOUTH EAST r CROSSg NoTH EAST r.0NoTH EAST r CROSSg SOUTH EAST r.
0FALLg DIAGONAL CROSSg NoTH EAST r.0RISg DIAGONAL CROSSg SOUTH EAST r.
0NoTH EAST r CROSSg NoTH WEST r.6WEST r CROSSg NoTH EAST r.0WAVE r zDIRECTLY h.
0r zhuTHEN CURVg UPWARDS.Zg DOWNWARDS.FDOWNuTHEN CURVg tWARDS.ZNG hWARDS.
0h-SIDE ARC CLOCKWISE r.0t-SIDE ARC ANTICLOCKWISE r.0TOP ARC ANTICLOCKWISE r.
0BOTTOM ARC ANTICLOCKWISE r.0TOP ARC CLOCKWISE rwMINUS.8ANTICLOCKWISE rwPLUS.
0LOWER h SEMICIRCULAR CLOCKWISE r.6t SEMICIRCULAR ANTICLOCKWISE r.0ANTICLOCKWISE CLOSED n r.
0CLOCKWISE CLOSED n r.0hure SHoT tur.0ture SHoT hur.0SHoT hure tur.0hurwPLUSb.0turwPLUSb.
0hur THROUGH X.0t h r THROUGH mn.0UPuTWO-HEADED r FROM mn.0t BARB UP h BARB DOWN HARPOON.
ADOWN h BARB UP HARPOON.0UP BARB h DOWN BARB t HARPOON.8t DOWN BARB h HARPOON.
0t BARB UP h BARB UP HARPOON.0UP BARB h DOWN BARB h HARPOON.0t BARB DOWN h BARB DOWN HARPOON.
0UP BARB t DOWN BARB t HARPOON.0tuHARPOONwBARB UP TO BAR.0huHARPOONwBARB UP TO BAR.
0UPuHARPOONwBARB h TO BAR.0DOWNuHARPOONwBARB h TO BAR.0tuHARPOONwBARB DOWN TO BAR.
0huHARPOONwBARB DOWN TO BAR.0UPuHARPOONwBARB t TO BAR.0DOWNuHARPOONwBARB t TO BAR.
0tuHARPOONwBARB UP FROM BAR.0huHARPOONwBARB UP FROM BAR.0UPuHARPOONwBARB h FROM BAR.
0DOWNuHARPOONwBARB h FROM BAR.0tuHARPOONwBARB DOWN FROM BAR.0huHARPOONwBARB DOWN FROM BAR.
0UPuHARPOONwBARB t FROM BAR.0DOWNuHARPOONwBARB t FROM BAR.
0tuHARPOONwBARB UPe tuHARPOONwBARB DOWN.0UPuHARPOONwBARB t BESIDE UPuHARPOONwBARB h.
0huHARPOONwBARB UPe huHARPOONwBARB DOWN.0DOWNuHARPOONwBARB t BESIDE DOWNuHARPOONwBARB h.
0tuHARPOONwBARB UPe huHARPOONwBARB UP.SDOWNe huHARPOONwBARB DOWN.
0huHARPOONwBARB UPe tuHARPOONwBARB UP.TDOWNe tuHARPOONwBARB DOWN.0tuHARPOONwBARB UPe LONG DASH.
SDOWNb LONG DASH.0huHARPOONwBARB UPe LONG DASH.TDOWNb LONG DASH.
0UPuHARPOONwBARB t BESIDE DOWNuHARPOONwBARB h.0DOWNuHARPOONwBARB t BESIDE UPuHARPOONwBARB h.
0h drwROUNDED HEAD.0EQUALSxe hur.0TILDE OPERAToe hur.0ture TILDE OPERATo.0hure TILDE OPERATo.
NALMOST EQUAL TO.0LESS-THANe tur.2FTur THROUGH LESS-THAN.0GREATER-THANe hur.0SUBSETe hur.
0tur THROUGH SUBSET.0SUPERSETe tur.0t FISH TAIL.0h FISH TAIL.0UP FISH TAIL.0DOWN FISH TAIL.
0TRIPLE qBAR DELIMITER.0Z NOTAy SPOT.BTYPE COLON.0t WHITE CURLY BRACKET.0h WHITE CURLY BRACKET.
0t WHITE PARENTHESIS.0h WHITE PARENTHESIS.0Z NOTAy t IMAGE BRACKET.Bh IMAGE BRACKET.
Bt BINDg BRACKET.Bh BINDg BRACKET.0t SQUARE BRACKETwUNDERBAR.0h SQUARE BRACKETwUNDERBAR.
0t SQUARE BRACKETwTICK IN TOP CoNER.0h SQUARE BRACKETwTICK IN BOTTOM CoNER.
0t SQUARE BRACKETwTICK IN BOTTOM CoNER.0h SQUARE BRACKETwTICK IN TOP CoNER.0t ANGLE BRACKETwDOT.
0h ANGLE BRACKETwDOT.0t ARC LESS-THAN BRACKET.0h ARC GREATER-THAN BRACKET.
0dt ARC GREATER-THAN BRACKET.7h ARC LESS-THAN BRACKET.0t BLACK ToTOISE SHELL BRACKET.
0h BLACK ToTOISE SHELL BRACKET.0DOTTED FENCE.0qZIGZAG LINE.0MEASURED ANGLE OPENg t.
0h ANGLE VARIANTwSQUARE.0MEASURED h ANGLEwDOT.0ANGLEwS INSIDE.1CUTE ANGLE.
0SPHERICAL ANGLE OPENg t.OUP.0TURNED ANGLE.0REVERSED ANGLE.0ANGLEwUNDERBAR.
0REVERSED ANGLEwUNDERBAR.0OBLIQUE ANGLE OPENg UP.MDOWN.0MEASURED ANGLEwOPEN ARM ENDg IN r zUPah.
Z IN r zUPat.Z IN r zDOWNah.Z IN r zDOWNat.Z IN r zhaUP.Z IN r ztaUP.Z IN r zhaDOWN.
Z IN r ztaDOWN.0REVERSED EMPTY SET.0EMPTY SETwOVERBAR.Fmne.Fh re.Ft re.0nwHoIZONTAL BAR.6D qBAR.
8PARALLEL.8REVERSE SOLIDUS.8PERPENDICULAR.6 DIVIDED BY HoIZONTAL BARaTOP HALF DIVIDED BY qBAR.
7WITH SUPERIMPOSED X.6D ANTICLOCKWISE-ROTATED DIVISIONx.0UP r THROUGH n.0nD WHITE BULLET.
8BULLET.8LESS-THAN.8GREATER-THAN.6wmn TO THE h.CTWO HoIZONTAL STROKES TO THE h.
0SQUARED RISg DIAGONAL SLASH.8FALLg DIAGONAL SLASH.8ASTERISK.8mn.9QUARE.0TWO JOINED SQUARES.
1RIANGLEwDOTe.EUNDERBAR.0S IN k.0kwSERIFS AT BOTTOM.0h ke t k.0t k BESIDE qBAR.0qBAR BESIDE h k.
0BOWTIEwt HALF BLACK.Ch HALF BLACK.1LACK BOWTIE.0TIMESwt HALF BLACK.Bh HALF BLACK.
0WHITE HOURGLASS.0BLACK HOURGLASS.0t WIGGLY FENCE.0h WIGGLY FENCE.0t dWIGGLY FENCE.
0h dWIGGLY FENCE.0INCOMPLETE INFINITY.0TIE OVER INFINITY.0INFINITY NEGATEDwqBAR.
0DOUBLE-ENDED MULTIMAP.0SQUAREwCONTOURED OUTLINE.0INCREASES AS.0SHUFFLE PRODUCT.
0EQUALSxaSLANTED PARALLEL.WwTILDEe.0IDENTICAL TOaSLANTED PARALLEL.0GLEICH STARK.0THERMODYNAMIC.
0DOWN-zkwt HALF BLACK.Sh HALF BLACK.0BLACK DIAMONDwDOWN r.6LOZENGE.0WHITE nwDOWN r.
0BLACK nwDOWN r.0ERRo-BARRED WHITE SQUARE.DBLACK SQUARE.DWHITE DIAMOND.DBLACK DIAMOND.DWHITE n.
DBLACK n.0RULE-DELAYED.1EVERSE SOLIDUS OPERATo.0SOLIDUSwOVERBAR.
0REVERSE SOLIDUSwHoIZONTAL STROKE.0BIG SOLIDUS.4REVERSE SOLIDUS.0dPLUS.0TRIPLE PLUS.
0t-zCURVED ANGLE BRACKET.0h-zCURVED ANGLE BRACKET.0TINY.0MINY.0N-ARY nD DOT OPERATo.
EPLUS OPERATo.ETIMES OPERATo.6UNION OPERATowDOT.QPLUS.6SQUARE INTERSECy OPERATo.DUNION OPERATo.
0TWO LOGICALaOPERATo.Co OPERATo.0N-ARY TIMES OPERATo.0MODULO TWO SUM.0SUMMAywINTEGRAL.
0QUADRUPLE INTEGRAL OPERATo.0FINITE PART INTEGRAL.0INTEGRALwdSTROKE.9AVERAGEwSLASH.
0CIRCULAy FUNCy.0ANTICLOCKWISE INTEGRAy.0LINE INTEGRAywRECTANGULAR PATH AROUND POLE.
MSEMICIRCULAR PATH AROUND POLE.HNOT INCLUDg THE POLE.0INTEGRAL AROUND A POINT OPERATo.
0QUATERNION INTEGRAL OPERATo.0INTEGRALwturwHOOK.ETIMESx.EINTERSECy.EUNION.EOVERBAR.EUNDERBAR.
0JOIN.0LARGE t k OPERATo.0Z NOTAy SCHEMA COMPOSIy.IPIPg.JROJECy.0PLUSxwmne.FCIRCUMFLEX ACCENTe.
FTILDEe.FDOTb.FTILDEb.FSUBSCRIPT TWO.FBLACK k.0MINUSxwCOMMAe.GDOTb.GFALLg DOTS.GRISg DOTS.
0PLUSx IN t HALF n.Dh HALF n.0VECTo o CROSS PRODUCT.0MULTIPLICAyxwDOTe.PUNDERBAR.
0SEMIDIRECT PRODUCTwBOTTOM CLOSED.1MASH PRODUCT.0MULTIPLICAyx IN t HALF n.Nh HALF n.
0nD MULTIPLICAyxwCIRCUMFLEX ACCENT.0MULTIPLICAyx IN dn.0nD DIVISIONx.0PLUSx IN k.0MINUSx IN k.
1ULTIPLICAyx IN k.0INTERIo PRODUCT.0hHAND INTERIo PRODUCT.0Z NOTAy RELAyAL COMPOSIy.
0AMALGAMAy o COPRODUCT.0INTERSECywDOT.0UNIONwMINUSx.BOVERBAR.0INTERSECywOVERBAR.ILOGICAL AND.
0UNIONwLOGICAL o.6ABOVE INTERSECy.0INTERSECye UNION.0UNIONe BARe INTERSECy.
0INTERSECye BARe UNION.0UNION BESIDEaJOINEDwUNION.0INTERSECy BESIDEaJOINEDwINTERSECy.
0CLOSED UNIONwSERIFS.7INTERSECywSERIFS.0dSQUARE INTERSECy.EUNION.
0CLOSED UNIONwSERIFSaSMASH PRODUCT.0LOGICAL ANDwDOTe.8owDOTe.0dLOGICAL AND.Fo.
0TWO INTERSECTg LOGICAL AND.Po.0SLOPg LARGE o.EAND.0LOGICAL o OVERLAPPg LOGICAL AND.
8ANDwMIDDLE STEM.8owMIDDLE STEM.8ANDwHoIZONTAL DASH.8owHoIZONTAL DASH.8ANDwdOVERBAR.HUNDERBAR.
HdUNDERBAR.0mVEEwUNDERBAR.0LOGICAL owdOVERBAR.NUNDERBAR.0Z NOTAy DOMAIN ANTIRESTRICy.
BRANGE ANTIRESTRICy.0EQUALSxwDOTb.0IDENTICALwDOTe.0TRIPLE HoIZONTAL BARwdqSTROKE.
RTRIPLE qSTROKE.1ILDE OPERATowDOTe.KRISg DOTS.0SIMILAR MINUS SIMILAR.0CONGRUENTwDOTe.
0EQUALSwASTERISK.0ALMOST EQUAL TOwCIRCUMFLEX ACCENT.1PPROXIMATELY EQUAL o EQUAL TO.
0EQUALSxe PLUSx.0PLUSxe EQUALSx.0EQUALSxe TILDE OPERATo.0dCOLON EQUAL.0TWO CONSECUTIVE EQUALSxS.
1HREE CONSECUTIVE EQUALSxS.0EQUALSxwTWO DOTSeaTWO DOTSb.3IVALENTwFOUR DOTSe.0LESS-THANwn INSIDE.
0GREATER-THANwn INSIDE.0LESS-THANwQUESy MARKe.0GREATER-THANwQUESy MARKe.
0LESS-THAN o SLANTED EQUAL TO.0GREATER-THAN o SLANTED EQUAL TO.
0LESS-THAN o SLANTED EQUAL TOwDOT INSIDE.0GREATER-THAN o SLANTED EQUAL TOwDOT INSIDE.
0LESS-THAN o SLANTED EQUAL TOwDOTe.0GREATER-THAN o SLANTED EQUAL TOwDOTe.
0LESS-THAN o SLANTED EQUAL TOwDOTe h.0GREATER-THAN o SLANTED EQUAL TOwDOTe t.
0LESS-THAN o APPROXIMATE.0GREATER-THAN o APPROXIMATE.0LESS-THANaSgLE-LINE NOT EQUAL TO.
0GREATER-THANaSgLE-LINE NOT EQUAL TO.0LESS-THANaNOT APPROXIMATE.0GREATER-THANaNOT APPROXIMATE.
0LESS-THANe DOUBLE-LINE EQUALe GREATER-THAN.0GREATER-THANe DOUBLE-LINE EQUALe LESS-THAN.
0LESS-THANe SIMILAR o EQUAL.0GREATER-THANe SIMILAR o EQUAL.0LESS-THANe SIMILARe GREATER-THAN.
0GREATER-THANe SIMILARe LESS-THAN.0LESS-THANe GREATER-THANe DOUBLE-LINE EQUAL.
0GREATER-THANe LESS-THANe DOUBLE-LINE EQUAL.
0LESS-THANe SLANTED EQUALe GREATER-THANe SLANTED EQUAL.
0GREATER-THANe SLANTED EQUALe LESS-THANe SLANTED EQUAL.0SLANTED EQUAL TO o LESS-THAN.
KGREATER-THAN.KLESS-THANwDOT INSIDE.KGREATER-THANwDOT INSIDE.0DOUBLE-LINE EQUAL TO o LESS-THAN.
OGREATER-THAN.CSLANTED EQUAL TO o LESS-THAN.WGREATER-THAN.0SIMILAR o LESS-THAN.BGREATER-THAN.
8ABOVE LESS-THANe EQUALSx.EGREATER-THANe EQUALSx.0dNESTED LESS-THAN.EGREATER-THAN.
ELESS-THANwUNDERBAR.0GREATER-THAN OVERLAPPg LESS-THAN.DBESIDE LESS-THAN.
0LESS-THAN CLOSED BY CURVE.0GREATER-THAN CLOSED BY CURVE.
0LESS-THAN CLOSED BY CURVEe SLANTED EQUAL.0GREATER-THAN CLOSED BY CURVEe SLANTED EQUAL.
0SMALLER THAN.0LARGER THAN.0SMALLER THAN o EQUAL TO.0LARGER THAN o EQUAL TO.0EQUALSxwBUMPYe.
0PRECEDESe SgLE-LINE EQUALSx.0SUCCEEDSe SgLE-LINE EQUALSx.0PRECEDESe SgLE-LINE NOT EQUAL TO.
0SUCCEEDSe SgLE-LINE NOT EQUAL TO.0PRECEDESe EQUALSx.0SUCCEEDSe EQUALSx.0PRECEDESe NOT EQUAL TO.
0SUCCEEDSe NOT EQUAL TO.0PRECEDESe ALMOST EQUAL TO.0SUCCEEDSe ALMOST EQUAL TO.
0PRECEDESe NOT ALMOST EQUAL TO.0SUCCEEDSe NOT ALMOST EQUAL TO.0dPRECEDES.7SUCCEEDS.0SUBSETwDOT.
2PERSETwDOT.2BSETwPLUSxb.2PERSETwPLUSxb.2BSETwMULTIPLICAyxb.2PERSETwMULTIPLICAyxb.
2BSET OF o EQUAL TOwDOTe.2PERSET OF o EQUAL TOwDOTe.2BSET OFe EQUALSx.2PERSET OFe EQUALSx.
2BSET OFe TILDE OPERATo.2PERSET OFe TILDE OPERATo.2BSET OFe ALMOST EQUAL TO.
2PERSET OFe ALMOST EQUAL TO.2BSET OFe NOT EQUAL TO.2PERSET OFe NOT EQUAL TO.
1QUARE t OPEN BOX OPERATo.7h OPEN BOX OPERATo.0CLOSED SUBSET.9PERSET.9BSET o EQUAL TO.
9PERSET o EQUAL TO.0SUBSETe SUPERSET.2PERSETe SUBSET.2BSETe SUBSET.2PERSETe SUPERSET.
9BESIDE SUBSET.GAND JOINED BY DASHwSUBSET.0ELEMENT OF OPENg DOWNWARDS.0PITCHFoKwTEE TOP.
0TRANSVERSAL INTERSECy.0FoKg.0NONFoKg.0SHoT t TACK.6DOWN TACK.6UP TACK.0PERPENDICULARwS.
0qBAR TRIPLE h TURNSTILE.0dqBAR t TURNSTILE.0qBAR dt TURNSTILE.0dqBAR dt TURNSTILE.
0LONG DASH FROM t MEMBER OF dVERTICAL.0SHoT DOWN TACKwOVERBAR.6UP TACKwUNDERBAR.
EABOVE SHoT DOWN TACK.0dDOWN TACK.7UP TACK.7STROKE NOTx.0REVERSED dSTROKE NOTx.
0DOES NOT DIVIDEwREVERSED NEGAy SLASH.0qLINEwne.QBELOW.0DOWN TACKwnb.0PARALLELwHoIZONTAL STROKE.
ETILDE OPERATo.0TRIPLE qBAR BINARY RELAy.KWITH HoIZONTAL STROKE.7COLON OPERATo.
7NESTED LESS-THAN.EGREATER-THAN.0DOUBLE-LINE SLANTED LESS-THAN o EQUAL TO.
KGREATER-THAN o EQUAL TO.0TRIPLE SOLIDUS BINARY RELAy.0LARGE TRIPLE qBAR OPERATo.
0dSOLIDUS OPERATo.0WHITE qBAR.0N-ARY WHITE qBAR.1oTH EAST WHITE r.6WEST WHITE r.
0SOUTH EAST WHITE r.6WEST WHITE r.0t h WHITE r.4uBLACK r.0UPuBLACK r.0DOWNuBLACK r.
0NoTH EAST BLACK r.6WEST BLACK r.0SOUTH EAST BLACK r.6WEST BLACK r.0t h BLACK r.
0UP DOWN BLACK r.0hurwTIP DOWNWARDS.QUPWARDS.0turwTIP DOWNWARDS.PUPWARDS.0SQUAREwTOP HALF BLACK.
CBOTTOM HALF BLACK.CUPPER h DIAGONAL HALF BLACK.CLOWER t DIAGONAL HALF BLACK.
0DIAMONDwt HALF BLACK.Dh HALF BLACK.DTOP HALF BLACK.DBOTTOM HALF BLACK.1OTTED SQUARE.
0BLACK LARGE SQUARE.0WHITE LARGE SQUARE.0BLACK VERY mSQUARE.0WHITE VERY mSQUARE.0BLACK PENTAGON.
0WHITE PENTAGON.6HEXAGON.0BLACK HEXAGON.0HoIZONTAL BLACK HEXAGON.0BLACK LARGE n.6MEDIUM DIAMOND.
0WHITE MEDIUM DIAMOND.0BLACK MEDIUM LOZENGE.0WHITE MEDIUM LOZENGE.0BLACK mDIAMOND.CLOZENGE.
0WHITE mLOZENGE.0BLACK HoIZONTAL ELLIPSE.0WHITE HoIZONTAL ELLIPSE.0BLACK qELLIPSE.
0WHITE qELLIPSE.0t rwmn.0THREE turS.0t rwnD PLUS.1ONG tuSQUIGGLE r.1EFTuTWO-HEADED rwqSTROKE.
WdqSTROKE.RFROM BAR.LTRIPLE DASH r.ArwDOTTED STEM.LTAILwqSTROKE.VdqSTROKE.ATWO-HEADED rwTAIL.
ZLwqSTROKE.ZLwdqSTROKE.Ar THROUGH X.0WAVE r zDIRECTLY t.0EQUALSxe tur.
0REVERSE TILDE OPERAToe tur.0ture REVERSE ALMOST EQUAL TO.0hur THROUGH GREATER-THAN.PSUPERSET.
0tuQUADRUPLE r.0huQUADRUPLE r.1EVERSE TILDE OPERAToe hur.1IGHTure REVERSE ALMOST EQUAL TO.
0TILDE OPERAToe tur.0ture ALMOST EQUAL TO.MREVERSE TILDE OPERATo.0hure REVERSE TILDE OPERATo.
0DOWNuk-HEADED ZIGZAG r.0SHoT SLANTED NoTH r.6BACKSLANTED SOUTH r.0WHITE MEDIUM STAR.
0BLACK mSTAR.0WHITE mSTAR.0BLACK h-zPENTAGON.0WHITE h-zPENTAGON.0HEAVY LARGE n.
6OVALwOVAL INSIDE.6nwn INSIDE.C.CD SALTIRE.0SLANTED NoTH rwHOOKED HEAD.
0BACKSLANTED SOUTH rwHOOKED TAIL.0SLANTED NoTH rwHoIZONTAL TAIL.
0BACKSLANTED SOUTH rwHoIZONTAL TAIL.1ENT r zDOWNuTHEN NoTH EAST.
0SHoT BENT r zDOWNuTHEN NoTH EAST.0tuk-HEADED r.0UPuk-HEADED r.0huk-HEADED r.0DOWNuk-HEADED r.
0t h k-HEADED r.0UP DOWN k-HEADED r.0NoTH WEST k-HEADED r.6EAST k-HEADED r.
0SOUTH EAST k-HEADED r.6WEST k-HEADED r.0tuk-HEADED DASHED r.0UPuk-HEADED DASHED r.
0huk-HEADED DASHED r.0DOWNuk-HEADED DASHED r.0CLOCKWISE k-HEADED OPEN n r.
0ANTICLOCKWISE k-HEADED OPEN n r.0tuk-HEADED r TO BAR.0UPuk-HEADED r TO BAR.
0huk-HEADED r TO BAR.0DOWNuk-HEADED r TO BAR.@2B76.0NoTH WEST k-HEADED r TO BAR.
6EAST k-HEADED r TO BAR.0SOUTH EAST k-HEADED r TO BAR.6WEST k-HEADED r TO BAR.
0tuk-HEADED rwdHoIZONTAL STROKE.0UPuk-HEADED rwdHoIZONTAL STROKE.
0huk-HEADED rwdHoIZONTAL STROKE.0DOWNuk-HEADED rwdHoIZONTAL STROKE.0HoIZONTAL TAB KEY.0qTAB KEY.
0tuk-HEADED r OVER huk-HEADED r.0UPuk-HEADED r tuOF DOWNuk-HEADED r.
0huk-HEADED r OVER tuk-HEADED r.0DOWNuk-HEADED r tuOF UPuk-HEADED r.0tuk-HEADED PAIRED rS.
0UPuk-HEADED PAIRED rS.0huk-HEADED PAIRED rS.0DOWNuk-HEADED PAIRED rS.0tuBLACK nD WHITE r.
0UPuBLACK nD WHITE r.0huBLACK nD WHITE r.0DOWNuBLACK nD WHITE r.
0ANTICLOCKWISE k-HEADED h U-SHAPED r.UBOTTOM U-SHAPED r.Ut U-SHAPED r.UTOP U-SHAPED r.0RETURN t.
7h.0NEWLINE t.8h.0FOUR CoNER rS CIRCLg ANTICLOCKWISE.0huBLACK r.@2B97.
0SYMBOL Fo TYPE A ELECTRONICS.0THREE-D TOP-LIGHTED tuEQUILATERAL rHEAD.
8h-LIGHTED UPuEQUILATERAL rHEAD.8TOP-LIGHTED huEQUILATERAL rHEAD.
8t-LIGHTED DOWNuEQUILATERAL rHEAD.0BLACK tuEQUILATERAL rHEAD.6UPuEQUILATERAL rHEAD.
6huEQUILATERAL rHEAD.6DOWNuEQUILATERAL rHEAD.0DOWNuk-HEADED rwLONG TIP tWARDS.
ZH LONG TIP hWARDS.0UPuk-HEADED rwLONG TIP tWARDS.ZLONG TIP hWARDS.
0tuk-HEADED rwLONG TIP UPWARDS.0huk-HEADED rwLONG TIP UPWARDS.0tuk-HEADED rwLONG TIP DOWNWARDS.
0huk-HEADED rwLONG TIP DOWNWARDS.0BLACK CURVED DOWNuAND tur.Rhur.DUPuAND tur.Phur.DtuAND UPur.
DhuAND UPur.DtuAND DOWNur.DhuAND DOWNur.0RIBBON r DOWN t.Ih.DUP t.Gh.Dt UP.Dh UP.Dt DOWN.
Dh DOWN.0UPuWHITE r FROM BARwHoIZONTAL BAR.2 rHEAD IN A RECTANGLE BOX.0OVERLAPPg WHITE SQUARES.
IAND BLACK SQUARES.CBLACK SQUARES.0BALLOT BOXwLIGHT X.0nD X.8BOLD X.0BLACK SQUARE CENTRED.
6DIAMOND CENTRED.0TURNED BLACK PENTAGON.0HoIZONTAL BLACK OCTAGON.0BLACK OCTAGON.
6MEDIUM UP-zk CENTRED.DDOWN-zk CENTRED.Dt-zk CENTRED.Dh-zk CENTRED.0NEPTUNE FoM TWO.
0TOP HALF BLACK n.0BOTTOM HALF BLACK n.0LIGHT FOUR POINTED BLACK CUSP.
0ROTATED LIGHT FOUR POINTED BLACK CUSP.0WHITE FOUR POINTED CUSP.
0ROTATED WHITE FOUR POINTED CUSP.0SQUARE POSIy INDICATo.0UNCERTAINTYx.0GROUP MARK.
0PLUTO FoM TWO.CHREE.BFOUR.CIVE.0TRANSPLUTO.0PROSERPINA.0ASTRAEA.0HYGIEA.0PHOLUS.0NESSUS.
0WHITE MOON SELENA.0BLACK DIAMOND ON CROSS.0TRUE LIGHT MOON ARTA.0CUPIDO.0HADES.0ZEUS.0KRONOS.
0APOLLON.1DMETOS.0VULCANUS.0POSEIDON.0t HALF BLACK STAR.0h HALF BLACK STAR.0STARwt HALF BLACK.
Ah HALF BLACK.0tuTWO-HEADED rwk rHEADS.0UPuTWO-HEADED rwk rHEADS.0huTWO-HEADED rwk rHEADS.
0DOWNuTWO-HEADED rwk rHEADS.0ERIS FoM ONE.ATWO.0SEDNA.0RUSSIAN ASTROLOGICALp VIGINTILE.SNOVILE.
SQUINTILE.SBINOVILE.SSENTAGON.STREDECILE.0EQUALSxwINFINITYb.0UNITEDp.0SEPARATEDp.0DOUBLEDp.
0PASSEDp.0REVERSED h ANGLE.0HELLSCHREIBER PAUSEp"

end Draftsman.Text.CharacterName
