/-
# Draftsman.Text.CharacterName.Aliases -- further names of characters

The table is written in the notation of `Draftsman.Text.CharacterName` (version 14 of
the character standard).
-/

namespace Draftsman.Text.CharacterName

set_option autoImplicit false

/-- Further names: those of controls, abbreviations, and corrections of names that
cannot be changed. -/
def aliases : String :=
  "@0.0NULL.@0.3.0START OF HEADg.@1.1OH.1TART OF TEXT.@2.2X.0END OF TEXT.@3.1TX.
1ND OF TRANSMISSION.@4.1OT.1NQUIRY.@5.3.0ACKNOWLEDGE.@6.3.1LERT.@7.0BEL.1ACKSPACE.@8.1S.
0CHARACTER TABULAy.@9.0HoIZONTAL TABULAy.@9.1T.@9.0TAB.0LINE FEED.@A.0NEW LINE.@A.0END OF LINE.
@A.1OL.@A.0LF.@A.0NL.0LINE TABULAy.@B.0qTABULAy.@B.1T.0FoM FEED.@C.1F.0CARRIAGE RETURN.@D.1R.
0SHIFT OUT.@E.0LOCKg-SHIFT ONE.@E.0SO.1HIFT IN.@F.0LOCKg-SHIFT ZERO.@F.0SI.0DATA LINK ESCAPE.
@10.1LE.1EVICE CONTROL ONE.@11.1C1.1EVICE CONTROL TWO.@12.1C2.1EVICE CONTROL THREE.@13.1C3.
1EVICE CONTROL FOUR.@14.1C4.0NEGATIVE ACKNOWLEDGE.@15.1AK.0SYNCHRONOUS IDLE.@16.3.
0END OF TRANSMISSION BLOCK.@17.1TB.0CANCEL.@18.3.0END OF MEDIUM.@19.1OM.0SUBSTITUTE.@1A.3.
0ESCAPE.@1B.3.0INFoMAy SEPARATo FOUR.@1C.0FILE SEPARATo.@1C.1S.0INFoMAy SEPARATo THREE.@1D.
0GROUP SEPARATo.@1D.1S.0INFoMAy SEPARATo TWO.@1E.0RECoD SEPARATo.@1E.1S.0INFoMAy SEPARATo ONE.
@1F.0UNIT SEPARATo.@1F.1S.0SP.@7F.0DELETE.@7F.3.0PADDg CHARACTER.@80.3.0HIGH OCTET PRESET.@81.
1OP.0BREAK PERMITTED HERE.@82.1PH.0NO BREAK HERE.@83.1BH.0INDEX.@84.3.0NEXT LINE.@85.2L.
0START OF SELECTED AREA.@86.1SA.0END OF SELECTED AREA.@87.1SA.0CHARACTER TABULAy SET.@88.
0HoIZONTAL TABULAy SET.@88.1TS.0CHARACTER TABULAywJUSTIFICAy.@89.0HoIZONTAL TABULAywJUSTIFICAy.
@89.1TJ.0LINE TABULAy SET.@8A.0qTABULAy SET.@8A.1TS.0PARTIAL LINE FoWARD.@8B.DDOWN.@8B.1LD.
1ARTIAL LINE BACKWARD.@8C.DUP.@8C.1LU.0REVERSE LINE FEED.@8D.8INDEX.@8D.1I.0SgLE SHIFT TWO.@8E.
6-SHIFT-2.@8E.1S2.1gLE SHIFT THREE.@8F.6-SHIFT-3.@8F.1S3.0DEVICE CONTROL STRg.@90.1CS.
0PRIVATE USE ONE.@91.B-1.@91.1U1.1RIVATE USE TWO.@92.B-2.@92.1U2.0SET TRANSMIT STATE.@93.1TS.
0CANCEL CHARACTER.@94.1CH.0MESSAGE WAITg.@95.1W.0START OF GUARDED AREA.@96.9PROTECTED AREA.@96.
1PA.0END OF GUARDED AREA.@97.7PROTECTED AREA.@97.1PA.0START OF STRg.@98.1OS.
1gLE GRAPHIC CHARACTER INTRODUCER.@99.1GC.1gLE CHARACTER INTRODUCER.@9A.1CI.
0CONTROL SEQUENCE INTRODUCER.@9B.1SI.0STRg TERMINATo.@9C.2.0OPERATg SYSTEM COMMAND.@9D.1SC.
0PRIVACY MESSAGE.@9E.1M.0APPLICAy PROGRAM COMMAND.@9F.2C.0NBSP.@AD.0SHY.@1A2.0LATIN cGHA.6sGHA.
@34F.0CGJ.@61C.0ALM.@709.0SYRIAC SUBLINEAR COLON SKEWED t.@CDE.0KANNADA lLLLA.@E9D.0LAO lFO FON.
@E9F.FAY.@EA3.BRO.@EA5.BLO.@FD0.0TIBETAN MARK BKA- SHOG GI MGO RGYAN.@11EC.
0HANGUL JONGSEONG YESIEUNG-KIYEOK.QSSANGKIYEOK.HSSANGYESIEUNG.HYESIEUNG-KHIEUKH.@180B.0FVS1.32.
33.0MVS.0FVS4.@200B.0ZWSP.2NJ.2J.0LRM.0RLM.@202A.0LRE.0RLE.0PDF.0LRO.0RLO.0NNBSP.@205F.0MMSP.
0WJ.@2066.0LRI.0RLI.0FSI.0PDI.@2118.0WEIERSTRASS ELLIPTIC FUNCy.@2448.0MICR ON USp.5DASHp.@2B7A.
0tuk-HEADED rwdqSTROKE.@2B7C.0huk-HEADED rwdqSTROKE.@A015.0YI SYLLABLE ITERAy MARK.@AA6E.
0MYANMAR lKHAMTI LLA.@FE00.0VS1.22.23.24.25.26.27.28.29.210.31.32.33.34.35.36.@FE18.
0PRESENTAy FoM Fo qh WHITE LENTICULAR BRACKET.@FEFF.0BYTE oDER MARK.@FEFF.1OM.@FEFF.0ZWNBSP.
@122D4.0CUNEIFoMx NU11 TENU.KOVER NU11 BUR OVER BUR.@16E56.0MEDEFAIDRIN cH.RNG.@16E76.CsH.PNG.
@1B001.0HENTAIGANA lE-1.@1D0C5.0BYZANTINE MUSICALp FTHoA SKLIRON CHROMA VASIS.@E0100.0VS17.38.
39.220.31.32.33.34.35.36.37.38.39.230.31.32.33.34.35.36.37.38.39.240.31.32.33.34.35.36.37.38.39.
250.31.32.33.34.35.36.37.38.39.260.31.32.33.34.35.36.37.38.39.270.31.32.33.34.35.36.37.38.39.
280.31.32.33.34.35.36.37.38.39.290.31.32.33.34.35.36.37.38.39.2100.41.42.43.44.45.46.47.48.49.
310.41.42.43.44.45.46.47.48.49.320.41.42.43.44.45.46.47.48.49.330.41.42.43.44.45.46.47.48.49.
340.41.42.43.44.45.46.47.48.49.350.41.42.43.44.45.46.47.48.49.360.41.42.43.44.45.46.47.48.49.
370.41.42.43.44.45.46.47.48.49.380.41.42.43.44.45.46.47.48.49.390.41.42.43.44.45.46.47.48.49.
2200.41.42.43.44.45.46.47.48.49.310.41.42.43.44.45.46.47.48.49.320.41.42.43.44.45.46.47.48.49.
330.41.42.43.44.45.46.47.48.49.340.41.42.43.44.45.46.47.48.49.350.41.42.43.44.45.46"

end Draftsman.Text.CharacterName
