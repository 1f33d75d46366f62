import CodeBehind.Text.CharacterName.Block

/-!
# Character names: the signs

The names of the signs that scripts share: punctuation, arrows, operators and shapes.

## Main definitions

* `signs`: The blocks.
-/

namespace CodeBehind

namespace Text

namespace CharacterName

/-- The blocks of the signs. -/
def signs : List Block := [
  (0x20D0, ["aCOMBINING LEFT HARPOON ABOVEkRIGHT HARPOON ABOVEkLONG VERTICAL LINE OVERLAYkSHORT VERTICAL LI",
    "NE OVERLAYkANTICLOCKWISE ARROW ABOVEkCLOCKWISE ARROW ABOVEkLEFT ARROW ABOVEkRIGHT ARROW ABOVEmNG OVERL",
    "AYkCLOCKWISE RING OVERLAYkANTICLOCKWISE RING OVERLAYkTHREE DOTS ABOVEkFOUR DOTS ABOVEkENCLOSING CIRCLE",
    "uSQUAREuDIAMONDuCIRCLE BACKSLASHkLEFT RIGHT ARROW ABOVEkENCLOSING SCREENuKEYCAPuUPWARD POINTING TRIANG",
    "LEkREVERSE SOLIDUS OVERLAYkDOUBLE VERTICAL STROKE OVERLAYkANNUITY SYMBOLkTRIPLE UNDERDOTkWIDE BRIDGE A",
    "BOVEkLEFTWARDS ARROW OVERLAYlONG DOUBLE SOLIDUS OVERLAYkRIGHTWARDS HARPOON WITH BARB DOWNWARDSkLEFTWAR",
    "DS HARPOON WITH BARB DOWNWARDSo ARROW BELOWkRIGHT ARROW BELOWkASTERISK ABOVE"]),
  (0x2100, ["aACCOUNT OFbDDRESSED TO THE SUBJECTaDOUBLE-STRUCK CAPITAL CbEGREE CELSIUSaCENTRE LINE SYMBOLbA",
    "RE OFcDA UNAaEULER CONSTANTaSCRUPLEaDEGREE FAHRENHEITaSCRIPT SMALL GhCAPITAL HaBLACK-LETTER CAPITAL Ha",
    "DOUBLE-STRUCK CAPITAL HaPLANCK CONSTANTp OVER TWO PIaSCRIPT CAPITAL IaBLACK-LETTER CAPITAL IaSCRIPT CA",
    "PITAL LhSMALL LaL B BAR SYMBOLaDOUBLE-STRUCK CAPITAL NaNUMERO SIGNaSOUND RECORDING COPY",
    "RIGHTbCRIPT CAPITAL PaDOUBLE-STRUCK CAPITAL PwQaSCRIPT CAPITAL RaBLACK-LETTER CAPITAL RaDOUBLE-STRUCK ",
    "CAPITAL RaPRESCRIPTION TAKEaRESPONSEaSERVICE MARKaTELEPHONE SIGNbRADE MARK SIGNaVERSICLEaDOUBLE-STRUCK",
    " CAPITAL ZaOUNCE SIGNbHM SIGNaINVERTED OHM SIGNaBLACK-LETTER CAPITAL ZaTURNED GREEK SMALL LETTER IOTAa",
    "KELVIN SIGNaANGSTROM SIGNaSCRIPT CAPITAL BaBLACK-LETTER CAPITAL CaESTIMATED SYMBOLaSCRIPT SMALL EhCAPI",
    "TAL EpFaTURNED CAPITAL FaSCRIPT CAPITAL MhSMALL OaALEF SYMBOLaBET SYMBOLaGIMEL SYMBOLaDALET SYMBOLaINF",
    "ORMATION SOURCEaROTATED CAPITAL QaFACSIMILE SIGNaDOUBLE-STRUCK SMALL PIuGAMMAoCAPITAL GAMMAwPIoN-ARY S",
    "UMMATIONaTURNED SANS-SERIF CAPITAL GzbLaREVERSED SANS-SERIF CAPITAL LaTURNED SANS-SERIF CAPITAL YaDOUB",
    "LE-STRUCK ITALIC CAPITAL DvSMALL DzcEzcIzcJaPROPERTY LINEaTURNED AMPERSANDaPER SIGNaAKTIESELSKABaTURNE",
    "D SMALL FaSYMBOL FOR SAMARITAN SOURCEaVULGAR FRACTION ONE SEVENTHuNINTHuTENTHvHIRDqTWO THIRDSqONE FIFT",
    "HqTWO FIFTHSrHREE FIFTHSqFOUR FIFTHSqONE SIXTHqFIVE SIXTHSqONE EIGHTHqTHREE EIGHTHSqFIVE EIGHTHSqSEVEN",
    " EIGHTHSaFRACTION NUMERATOR ONEaROMAN NUMERAL ONEoTWOpHREEoFOURpIVEoSIXpEVENoEIGHToNINEoTENoELEVENoTWE",
    "LVEoFIFTYoONE HUNDREDoFIVE HUNDREDoONE THOUSANDaSMALL ROMAN NUMERAL ONEuTWOvHREEuFOURvIVEuSIXvEVENuEIG",
    "HTuNINEuTENuELEVENuTWELVEuFIFTYuONE HUNDREDuFIVE HUNDREDuONE THOUSANDaROMAN NUMERAL ONE THOUSAND C DoF",
    "IVE THOUSANDoTEN THOUSANDoREVERSED ONE HUNDREDaLATIN SMALL LETTER REVERSED CaROMAN NUMERAL SIX LATE FO",
    "RMoFIFTY EARLY FORMuTHOUSANDoONE HUNDRED THOUSANDaVULGAR FRACTION ZERO THIRDSaTURNED DIGIT TWOoHREE???",
    "?aLEFTWARDS ARROWaUPWARDS ARROWaRIGHTWARDS ARROWaDOWNWARDS ARROWaLEFT RIGHT ARROWaUP DOWN ARROWaNORTH ",
    "WEST ARROWgEAST ARROWaSOUTH EAST ARROWgWEST ARROWaLEFTWARDS ARROW WITH STROKEaRIGHTWARDS ARROW WITH ST",
    "ROKEaLEFTWARDS WAVE ARROWaRIGHTWARDS WAVE ARROWaLEFTWARDS TWO HEADED ARROWaUPWARDS TWO HEADED ARROWaRI",
    "GHTWARDS TWO HEADED ARROWaDOWNWARDS TWO HEADED ARROWaLEFTWARDS ARROW WITH TAILaRIGHTWARDS ARROW WITH T",
    "AILaLEFTWARDS ARROW FROM BARaUPWARDS ARROW FROM BARaRIGHTWARDS ARROW FROM BARaDOWNWARDS ARROW FROM BAR",
    "aUP DOWN ARROW WITH BASEaLEFTWARDS ARROW WITH HOOKaRIGHTWARDS ARROW WITH HOOKaLEFTWARDS ARROW WITH LOO",
    "PaRIGHTWARDS ARROW WITH LOOPaLEFT RIGHT WAVE ARROWlARROW WITH STROKEaDOWNWARDS ZIGZAG ARROWaUPWARDS AR",
    "ROW WITH TIP LEFTWARDSxRIGHTWARDSaDOWNWARDS ARROW WITH TIP LEFTWARDSzaRIGHTWARDSaRIGHTWARDS ARROW WITH",
    " CORNER DOWNWARDSaDOWNWARDS ARROW WITH CORNER LEFTWARDSaANTICLOCKWISE TOP SEMICIRCLE ARROWaCLOCKWISE T",
    "OP SEMICIRCLE ARROWaNORTH WEST ARROW TO LONG BARaLEFTWARDS ARROW TO BAR OVER RIGHTWARDS ARROW TO BARaA",
    "NTICLOCKWISE OPEN CIRCLE ARROWaCLOCKWISE OPEN CIRCLE ARROWaLEFTWARDS HARPOON WITH BARB UPWARDSzdDOWNWA",
    "RDSaUPWARDS HARPOON WITH BARB RIGHTWARDSzbLEFTWARDSaRIGHTWARDS HARPOON WITH BARB UPWARDSzeDOWNWARDSaDO",
    "WNWARDS HARPOON WITH BARB RIGHTWARDSzdLEFTWARDSaRIGHTWARDS ARROW OVER LEFTWARDS ARROWaUPWARDS ARROW LE",
    "FTWARDS OF DOWNWARDS ARROWaLEFTWARDS ARROW OVER RIGHTWARDS ARROWkPAIRED ARROWSaUPWARDS PAIRED ARROWSaR",
    "IGHTWARDS PAIRED ARROWSaDOWNWARDS PAIRED ARROWSaLEFTWARDS HARPOON OVER RIGHTWARDS HARPOONaRIGHTWARDS H",
    "ARPOON OVER LEFTWARDS HARPOONaLEFTWARDS DOUBLE ARROW WITH STROKEe RIGHT DOUBLE ARROW WITH STROKEaRIGHT",
    "WARDS DOUBLE ARROW WITH STROKEaLEFTWARDS DOUBLE ARROWaUPWARDS DOUBLE ARROWaRIGHTWARDS DOUBLE ARROWaDOW",
    "NWARDS DOUBLE ARROWaLEFT RIGHT DOUBLE ARROWaUP DOWN DOUBLE ARROWaNORTH WEST DOUBLE ARROWgEAST DOUBLE A",
    "RROWaSOUTH EAST DOUBLE ARROWgWEST DOUBLE ARROWaLEFTWARDS TRIPLE ARROWaRIGHTWARDS TRIPLE ARROWaLEFTWARD",
    "S SQUIGGLE ARROWaRIGHTWARDS SQUIGGLE ARROWaUPWARDS ARROW WITH DOUBLE STROKEaDOWNWARDS ARROW WITH DOUBL",
    "E STROKEaLEFTWARDS DASHED ARROWaUPWARDS DASHED ARROWaRIGHTWARDS DASHED ARROWaDOWNWARDS DASHED ARROWaLE",
    "FTWARDS ARROW TO BARaRIGHTWARDS ARROW TO BARaLEFTWARDS WHITE ARROWaUPWARDS WHITE ARROWaRIGHTWARDS WHIT",
    "E ARROWaDOWNWARDS WHITE ARROWaUPWARDS WHITE ARROW FROM BARuON PEDESTALzg WITH HORIZONTAL BARzmVERTICAL",
    " BARoDOUBLE ARROWzb ON PEDESTALaRIGHTWARDS WHITE ARROW FROM WALLaNORTH WEST ARROW TO CORNERaSOUTH EAST",
    " ARROW TO CORNERaUP DOWN WHITE ARROWaRIGHT ARROW WITH SMALL CIRCLEaDOWNWARDS ARROW LEFTWARDS OF UPWARD",
    "S ARROWaTHREE RIGHTWARDS ARROWSaLEFTWARDS ARROW WITH VERTICAL STROKEaRIGHTWARDS ARROW WITH VERTICAL ST",
    "ROKEaLEFT RIGHT ARROW WITH VERTICAL STROKEeWARDS ARROW WITH DOUBLE VERTICAL STROKEaRIGHTWARDS ARROW WI",
    "TH DOUBLE VERTICAL STROKEaLEFT RIGHT ARROW WITH DOUBLE VERTICAL STROKEeWARDS OPEN-HEADED ARROWaRIGHTWA",
    "RDS OPEN-HEADED ARROWaLEFT RIGHT OPEN-HEADED ARROWaFOR ALLaCOMPLEMENTaPARTIAL DIFFERENTIALaTHERE EXIST",
    "SgDOES NOT EXISTaEMPTY SETaINCREMENTaNABLAaELEMENT OFaNOT AN ELEMENT OFaSMALL ELEMENT OFaCONTAINS AS M",
    "EMBERaDOES NOT CONTAIN AS MEMBERaSMALL CONTAINS AS MEMBERaEND OF PROOFaN-ARY PRODUCTgCOPRODUCTgSUMMATI",
    "ONaMINUS SIGNf-OR-PLUS SIGNaDOT PLUSbIVISION SLASHaSET MINUSaASTERISK OPERATORaRING OPERATORaBULLET OP",
    "ERATORaSQUARE ROOTaCUBE ROOTaFOURTH ROOTaPROPORTIONAL TOaINFINITYaRIGHT ANGLEaANGLEaMEASURED ANGLEaSPH",
    "ERICAL ANGLEaDIVIDESbOES NOT DIVIDEaPARALLEL TOaNOT PARALLEL TOaLOGICAL ANDiORaINTERSECTIONaUNIONaINTE",
    "GRALaDOUBLE INTEGRALaTRIPLE INTEGRALaCONTOUR INTEGRALaSURFACE INTEGRALaVOLUME INTEGRALaCLOCKWISE INTEG",
    "RALkCONTOUR INTEGRALaANTICLOCKWISE CONTOUR INTEGRALaTHEREFOREaBECAUSEaRATIOaPROPORTIONaDOT MINUSaEXCES",
    "SaGEOMETRIC PROPORTIONaHOMOTHETICaTILDE OPERATORaREVERSED TILDEaINVERTED LAZY SaSINE WAVEaWREATH PRODU",
    "CTaNOT TILDEaMINUS TILDEaASYMPTOTICALLY EQUAL TOaNOT ASYMPTOTICALLY EQUAL TOaAPPROXIMATELY EQUAL TOoBU",
    "T NOT ACTUALLY EQUAL TOaNEITHER APPROXIMATELY NOR ACTUALLY EQUAL TOaALMOST EQUAL TOaNOT ALMOST EQUAL T",
    "OaALMOST EQUAL OR EQUAL TOaTRIPLE TILDEaALL EQUAL TOaEQUIVALENT TOaGEOMETRICALLY EQUIVALENT TOaDIFFERE",
    "NCE BETWEENaAPPROACHES THE LIMITaGEOMETRICALLY EQUAL TOaAPPROXIMATELY EQUAL TO OR THE IMAGE OFaIMAGE O",
    "F OR APPROXIMATELY EQUAL TOaCOLON EQUALSaEQUALS COLONaRING IN EQUAL TOfEQUAL TOaCORRESPONDS TOaESTIMAT",
    "ESbQUIANGULAR TOaSTAR EQUALSaDELTA EQUAL TOaEQUAL TO BY DEFINITIONaMEASURED BYaQUESTIONED EQUAL TOaNOT",
    " EQUAL TOaIDENTICAL TOaNOT IDENTICAL TOaSTRICTLY EQUIVALENT TOaLESS-THAN OR EQUAL TOaGREATER-THAN OR E",
    "QUAL TOaLESS-THAN OVER EQUAL TOaGREATER-THAN OVER EQUAL TOaLESS-THAN BUT NOT EQUAL TOaGREATER-THAN BUT",
    " NOT EQUAL TOaMUCH LESS-THANfGREATER-THANaBETWEENaNOT EQUIVALENT TOeLESS-THANeGREATER-THANbEITHER LESS",
    "-THAN NOR EQUAL TOiGREATER-THAN NOR EQUAL TOaLESS-THAN OR EQUIVALENT TOaGREATER-THAN OR EQUIVALENT TOa",
    "NEITHER LESS-THAN NOR EQUIVALENT TOiGREATER-THAN NOR EQUIVALENT TOaLESS-THAN OR GREATER-THANaGREATER-T",
    "HAN OR LESS-THANaNEITHER LESS-THAN NOR GREATER-THANiGREATER-THAN NOR LESS-THANaPRECEDESaSUCCEEDSaPRECE",
    "DES OR EQUAL TOaSUCCEEDS OR EQUAL TOaPRECEDES OR EQUIVALENT TOaSUCCEEDS OR EQUIVALENT TOaDOES NOT PREC",
    "EDEjSUCCEEDaSUBSET OFcPERSET OFaNOT A SUBSET OFiPERSET OFaSUBSET OF OR EQUAL TOcPERSET OF OR EQUAL TOa",
    "NEITHER A SUBSET OF NOR EQUAL TOmPERSET OF NOR EQUAL TOaSUBSET OF WITH NOT EQUAL TOcPERSET OF WITH NOT",
    " EQUAL TOaMULTISETi MULTIPLICATIONjUNIONaSQUARE IMAGE OFhORIGINAL OFhIMAGE OF OR EQUAL TOhORIGINAL OF ",
    "OR EQUAL TOhCAPiUPaCIRCLED PLUSiMINUSiTIMESiDIVISION SLASHjOT OPERATORiRING OPERATORiASTERISK OPERATOR",
    "iEQUALSiDASHaSQUARED PLUSiMINUSiTIMESiDOT OPERATORaRIGHT TACKaLEFT TACKaDOWN TACKaUP TACKaASSERTIONaMO",
    "DELSaTRUEaFORCESaTRIPLE VERTICAL BAR RIGHT TURNSTILEaDOUBLE VERTICAL BAR DOUBLE RIGHT TURNSTILEcES NOT",
    " PROVEaNOT TRUEaDOES NOT FORCEaNEGATED DOUBLE VERTICAL BAR DOUBLE RIGHT TURNSTILEaPRECEDES UNDER RELAT",
    "IONaSUCCEEDS UNDER RELATIONaNORMAL SUBGROUP OFaCONTAINS AS NORMAL SUBGROUPaNORMAL SUBGROUP OF OR EQUAL",
    " TOaCONTAINS AS NORMAL SUBGROUP OR EQUAL TOaORIGINAL OFaIMAGE OFaMULTIMAPaHERMITIAN CONJUGATE MATRIXaI",
    "NTERCALATEaXORaNANDbORaRIGHT ANGLE WITH ARCgTRIANGLEaN-ARY LOGICAL ANDoORgINTERSECTIONgUNIONaDIAMOND O",
    "PERATORbOT OPERATORaSTAR OPERATORaDIVISION TIMESaBOWTIEaLEFT NORMAL FACTOR SEMIDIRECT PRODUCTaRIGHT NO",
    "RMAL FACTOR SEMIDIRECT PRODUCTaLEFT SEMIDIRECT PRODUCTaRIGHT SEMIDIRECT PRODUCTbEVERSED TILDE EQUALSaC",
    "URLY LOGICAL ORoANDaDOUBLE SUBSETjPERSEThINTERSECTIONhUNIONaPITCHFORKaEQUAL AND PARALLEL TOaLESS-THAN ",
    "WITH DOTaGREATER-THAN WITH DOTaVERY MUCH LESS-THANkGREATER-THANaLESS-THAN EQUAL TO OR GREATER-THANaGRE",
    "ATER-THAN EQUAL TO OR LESS-THANaEQUAL TO OR LESS-THANmGREATER-THANmPRECEDESmSUCCEEDSaDOES NOT PRECEDE ",
    "OR EQUALjSUCCEED OR EQUALaNOT SQUARE IMAGE OF OR EQUAL TOlORIGINAL OF OR EQUAL TOaSQUARE IMAGE OF OR N",
    "OT EQUAL TOhORIGINAL OF OR NOT EQUAL TOaLESS-THAN BUT NOT EQUIVALENT TOaGREATER-THAN BUT NOT EQUIVALEN",
    "T TOaPRECEDES BUT NOT EQUIVALENT TOaSUCCEEDS BUT NOT EQUIVALENT TOaNOT NORMAL SUBGROUP OFaDOES NOT CON",
    "TAIN AS NORMAL SUBGROUPaNOT NORMAL SUBGROUP OF OR EQUAL TOaDOES NOT CONTAIN AS NORMAL SUBGROUP OR EQUA",
    "LaVERTICAL ELLIPSISaMIDLINE HORIZONTAL ELLIPSISaUP RIGHT DIAGONAL ELLIPSISaDOWN RIGHT DIAGONAL ELLIPSI",
    "SaELEMENT OF WITH LONG HORIZONTAL STROKEqVERTICAL BAR AT END OF HORIZONTAL STROKEaSMALL ELEMENT OF WIT",
    "H VERTICAL BAR AT END OF HORIZONTAL STROKEaELEMENT OF WITH DOT ABOVEqOVERBARaSMALL ELEMENT OF WITH OVE",
    "RBARaELEMENT OF WITH UNDERBARqTWO HORIZONTAL STROKESaCONTAINS WITH LONG HORIZONTAL STROKEoVERTICAL BAR",
    " AT END OF HORIZONTAL STROKEaSMALL CONTAINS WITH VERTICAL BAR AT END OF HORIZONTAL STROKEaCONTAINS WIT",
    "H OVERBARaSMALL CONTAINS WITH OVERBARaZ NOTATION BAG MEMBERSHIPaDIAMETER SIGNaELECTRIC ARROWaHOUSEaUP ",
    "ARROWHEADaDOWN ARROWHEADaPROJECTIVEbERSPECTIVEaWAVY LINEaLEFT CEILINGaRIGHT CEILINGaLEFT FLOORaRIGHT F",
    "LOORaBOTTOM RIGHT CROPhLEFT CROPaTOP RIGHT CROPeLEFT CROPaREVERSED NOT SIGNaSQUARE LOZENGEaARCaSEGMENT",
    "cCTORaTELEPHONE RECORDERaPOSITION INDICATORaVIEWDATA SQUAREaPLACE OF INTEREST SIGNaTURNED NOT SIGNaWAT",
    "CHaHOURGLASSaTOP LEFT CORNEReRIGHT CORNERaBOTTOM LEFT CORNERhRIGHT CORNERaTOP HALF INTEGRALaBOTTOM HAL",
    "F INTEGRALaFROWNaSMILEaUP ARROWHEAD BETWEEN TWO HORIZONTAL BARSaOPTION KEYaERASE TO THE RIGHTaX IN A R",
    "ECTANGLE BOXaKEYBOARDaLEFT-POINTING ANGLE BRACKETaRIGHT-POINTING ANGLE BRACKETaERASE TO THE LEFTaBENZE",
    "NE RINGaCYLINDRICITYaALL AROUND-PROFILEaSYMMETRYaTOTAL RUNOUTaDIMENSION ORIGINaCONICAL TAPERaSLOPEaCOU",
    "NTERBOREhSINKaAPL FUNCTIONAL SYMBOL I-BEAMwSQUISH QUADwQUAD EQUALzcDIVIDEzeAMONDzcJOTzcCIRCLEwCIRCLE S",
    "TILEzeJOTwSLASH BARwBACKSLASH BARwQUAD SLASHzcBACKSLASHzcLESS-THANzcGREATER-THANwLEFTWARDS VANEwRIGHTW",
    "ARDS VANEwQUAD LEFTWARDS ARROWzcRIGHTWARDS ARROWwCIRCLE BACKSLASHwDOWN TACK UNDERBARxELTA STILEwQUAD D",
    "OWN CARETzdELTAwDOWN TACK JOTwUPWARDS VANEwQUAD UPWARDS ARROWwUP TACK OVERBARwDEL STILEwQUAD UP CARETz",
    "cDELwUP TACK JOTwDOWNWARDS VANEwQUAD DOWNWARDS ARROWyOTE UNDERBARwDELTA UNDERBARxIAMOND UNDERBARwJOT U",
    "NDERBARwCIRCLE UNDERBARwUP SHOE JOTwQUOTE QUADwCIRCLE STARwQUAD COLONwUP TACK DIAERESISwDEL DIAERESISw",
    "STAR DIAERESISwJOT DIAERESISwCIRCLE DIAERESISwDOWN SHOE STILEwLEFT SHOE STILEwTILDE DIAERESISwGREATER-",
    "THAN DIAERESISwCOMMA BARwDEL TILDEwZILDEwSTILE TILDExEMICOLON UNDERBARwQUAD NOT EQUALzcQUESTIONwDOWN C",
    "ARET TILDEwUP CARET TILDEwIOTAwRHOwOMEGAwALPHA UNDERBARwEPSILON UNDERBARwIOTA UNDERBARwOMEGA UNDERBARw",
    "ALPHAaNOT CHECK MARKaRIGHT ANGLE WITH DOWNWARDS ZIGZAG ARROWaSHOULDERED OPEN BOXaBELL SYMBOLaVERTICAL ",
    "LINE WITH MIDDLE DOTaINSERTION SYMBOLaCONTINUOUS UNDERLINE SYMBOLaDISCONTINUOUS UNDERLINE SYMBOLaEMPHA",
    "SIS SYMBOLaCOMPOSITION SYMBOLaWHITE SQUARE WITH CENTRE VERTICAL LINEaENTER SYMBOLaALTERNATIVE KEY SYMB",
    "OLaHELM SYMBOLaCIRCLED HORIZONTAL BAR WITH NOTCHiTRIANGLE DOWNaBROKEN CIRCLE WITH NORTHWEST ARROWaUNDO",
    " SYMBOLaMONOSTABLE SYMBOLaHYSTERESIS SYMBOLaOPEN-CIRCUIT-OUTPUT H-TYPE SYMBOLuL-TYPE SYMBOLaPASSIVE-PU",
    "LL-DOWN-OUTPUT SYMBOLnUP-OUTPUT SYMBOLaDIRECT CURRENT SYMBOL FORM TWOaSOFTWARE-FUNCTION SYMBOLaAPL FUN",
    "CTIONAL SYMBOL QUADaDECIMAL SEPARATOR KEY SYMBOLaPREVIOUS PAGEaNEXT PAGEaPRINT SCREEN SYMBOLaCLEAR SCR",
    "EEN SYMBOLaLEFT PARENTHESIS UPPER HOOKrEXTENSIONrLOWER HOOKaRIGHT PARENTHESIS UPPER HOOKsEXTENSIONsLOW",
    "ER HOOKaLEFT SQUARE BRACKET UPPER CORNERuEXTENSIONuLOWER CORNERaRIGHT SQUARE BRACKET UPPER CORNERvEXTE",
    "NSIONvLOWER CORNERaLEFT CURLY BRACKET UPPER HOOKtMIDDLE PIECEtLOWER HOOKaCURLY BRACKET EXTENSIONaRIGHT",
    " CURLY BRACKET UPPER HOOKuMIDDLE PIECEuLOWER HOOKaINTEGRAL EXTENSIONaHORIZONTAL LINE EXTENSIONaUPPER L",
    "EFT OR LOWER RIGHT CURLY BRACKET SECTIONgRIGHT OR LOWER LEFT CURLY BRACKET SECTIONaSUMMATION TOPkBOTTO",
    "MaTOP SQUARE BRACKETaBOTTOM SQUARE BRACKETv OVER TOP SQUARE BRACKETaRADICAL SYMBOL BOTTOMaLEFT VERTICA",
    "L BOX LINEaRIGHT VERTICAL BOX LINEaHORIZONTAL SCAN LINE-1v3v7v9aDENTISTRY SYMBOL LIGHT VERTICAL AND TO",
    "P RIGHTzlBOTTOM RIGHTzhWITH CIRCLExDOWN AND HORIZONTAL WITH CIRCLExUP AND HORIZONTAL WITH CIRCLExVERTI",
    "CAL WITH TRIANGLExDOWN AND HORIZONTAL WITH TRIANGLExUP AND HORIZONTAL WITH TRIANGLExVERTICAL AND WAVEx",
    "DOWN AND HORIZONTAL WITH WAVExUP AND HORIZONTAL WITH WAVExDOWN AND HORIZONTALxUP AND HORIZONTALxVERTIC",
    "AL AND TOP LEFTzlBOTTOM LEFTaSQUARE FOOTaRETURN SYMBOLaEJECT SYMBOLaVERTICAL LINE EXTENSIONaMETRICAL B",
    "REVEjLONG OVER SHORTjSHORT OVER LONGjLONG OVER TWO SHORTSjTWO SHORTS OVER LONGuJOINEDkRISEMEkETRASEMEj",
    "PENTASEMEaEARTH GROUNDaFUSEaTOP PARENTHESISaBOTTOM PARENTHESISaTOP CURLY BRACKETaBOTTOM CURLY BRACKETa",
    "TOP TORTOISE SHELL BRACKETaBOTTOM TORTOISE SHELL BRACKETaWHITE TRAPEZIUMaBENZENE RING WITH CIRCLEaSTRA",
    "IGHTNESSaFLATNESSaAC CURRENTaELECTRICAL INTERSECTIONaDECIMAL EXPONENT SYMBOLaBLACK RIGHT-POINTING DOUB",
    "LE TRIANGLEgLEFT-POINTING DOUBLE TRIANGLEgUP-POINTING DOUBLE TRIANGLEgDOWN-POINTING DOUBLE TRIANGLEgRI",
    "GHT-POINTING DOUBLE TRIANGLE WITH VERTICAL BARgLEFT-POINTING DOUBLE TRIANGLE WITH VERTICAL BARgRIGHT-P",
    "OINTING TRIANGLE WITH DOUBLE VERTICAL BARaALARM CLOCKaSTOPWATCHaTIMER CLOCKaHOURGLASS WITH FLOWING SAN",
    "DaBLACK MEDIUM LEFT-POINTING TRIANGLEnRIGHT-POINTING TRIANGLEnUP-POINTING TRIANGLEnDOWN-POINTING TRIAN",
    "GLEaDOUBLE VERTICAL BARaBLACK SQUARE FOR STOPgCIRCLE FOR RECORDaPOWER SYMBOLgON-OFF SYMBOLi SYMBOLgSLE",
    "EP SYMBOLaOBSERVER EYE SYMBOLaSYMBOL FOR NULLlSTART OF HEADINGuTEXTlEND OF TEXTtRANSMISSIONnQUIRYlACKN",
    "OWLEDGElBELLmACKSPACElHORIZONTAL TABULATIONlLINE FEEDlVERTICAL TABULATIONlFORM FEEDlCARRIAGE RETURNlSH",
    "IFT OUTrINlDATA LINK ESCAPEmEVICE CONTROL ONEzbTWOzcHREEzbFOURlNEGATIVE ACKNOWLEDGElSYNCHRONOUS IDLElE",
    "ND OF TRANSMISSION BLOCKlCANCELlEND OF MEDIUMlSUBSTITUTElESCAPElFILE SEPARATORlGROUP SEPARATORlRECORD ",
    "SEPARATORlUNIT SEPARATORlSPACElDELETEaBLANK SYMBOLaOPEN BOXaSYMBOL FOR NEWLINElDELETE FORM TWOlSUBSTIT",
    "UTE FORM TWO"]),
  (0x2440, ["aOCR HOOKeCHAIReFORKeINVERTED FORKeBELT BUCKLEfOW TIEfRANCH BANK IDENTIFICATIONeAMOUNT OF CHEC",
    "KeDASHeCUSTOMER ACCOUNT NUMBEReDOUBLE BACKSLASH"]),
  (0x2460, ["aCIRCLED DIGIT ONEoTWOpHREEoFOURpIVEoSIXpEVENoEIGHToNINEiNUMBER TENpELEVENpTWELVEqHIRTEENpFOUR",
    "TEENqIFTEENpSIXTEENqEVENTEENpEIGHTEENpNINETEENpTWENTYaPARENTHESIZED DIGIT ONEuTWOvHREEuFOURvIVEuSIXvEV",
    "ENuEIGHTuNINEoNUMBER TENvELEVENvTWELVEwHIRTEENvFOURTEENwIFTEENvSIXTEENwEVENTEENvEIGHTEENvNINETEENvTWEN",
    "TYaDIGIT ONE FULL STOPgTWO FULL STOPhHREE FULL STOPgFOUR FULL STOPhIVE FULL STOPgSIX FULL STOPhEVEN FU",
    "LL STOPgEIGHT FULL STOPgNINE FULL STOPaNUMBER TEN FULL STOPhELEVEN FULL STOPhTWELVE FULL STOPiHIRTEEN ",
    "FULL STOPhFOURTEEN FULL STOPiIFTEEN FULL STOPhSIXTEEN FULL STOPiEVENTEEN FULL STOPhEIGHTEEN FULL STOPh",
    "NINETEEN FULL STOPhTWENTY FULL STOPaPARENTHESIZED LATIN SMALL LETTER AziBziCziDziEziFziGziHziIziJziKzi",
    "LziMziNziOziPziQziRziSziTziUziVziWziXziYziZaCIRCLED LATIN CAPITAL LETTER AzeBzeCzeDzeEzeFzeGzeHzeIzeJz",
    "eKzeLzeMzeNzeOzePzeQzeRzeSzeTzeUzeVzeWzeXzeYzeZoSMALL LETTER AzcBzcCzcDzcEzcFzcGzcHzcIzcJzcKzcLzcMzcNz",
    "cOzcPzcQzcRzcSzcTzcUzcVzcWzcXzcYzcZiDIGIT ZEROaNEGATIVE CIRCLED NUMBER ELEVENyTWELVEzaHIRTEENyFOURTEEN",
    "zaIFTEENySIXTEENzaEVENTEENyEIGHTEENyNINETEENyTWENTYaDOUBLE CIRCLED DIGIT ONEvTWOwHREEvFOURwIVEvSIXwEVE",
    "NvEIGHTvNINEpNUMBER TENaNEGATIVE CIRCLED DIGIT ZEROaBOX DRAWINGS LIGHT HORIZONTALnHEAVY HORIZONTALnLIG",
    "HT VERTICALnHEAVY VERTICALnLIGHT TRIPLE DASH HORIZONTALnHEAVY TRIPLE DASH HORIZONTALnLIGHT TRIPLE DASH",
    " VERTICALnHEAVY TRIPLE DASH VERTICALnLIGHT QUADRUPLE DASH HORIZONTALnHEAVY QUADRUPLE DASH HORIZONTALnL",
    "IGHT QUADRUPLE DASH VERTICALnHEAVY QUADRUPLE DASH VERTICALnLIGHT DOWN AND RIGHTnDOWN LIGHT AND RIGHT H",
    "EAVYsHEAVY AND RIGHT LIGHTnHEAVY DOWN AND RIGHTnLIGHT DOWN AND LEFTnDOWN LIGHT AND LEFT HEAVYsHEAVY AN",
    "D LEFT LIGHTnHEAVY DOWN AND LEFTnLIGHT UP AND RIGHTnUP LIGHT AND RIGHT HEAVYqHEAVY AND RIGHT LIGHTnHEA",
    "VY UP AND RIGHTnLIGHT UP AND LEFTnUP LIGHT AND LEFT HEAVYqHEAVY AND LEFT LIGHTnHEAVY UP AND LEFTnLIGHT",
    " VERTICAL AND RIGHTnVERTICAL LIGHT AND RIGHT HEAVYnUP HEAVY AND RIGHT DOWN LIGHTnDOWN HEAVY AND RIGHT ",
    "UP LIGHTnVERTICAL HEAVY AND RIGHT LIGHTnDOWN LIGHT AND RIGHT UP HEAVYnUP LIGHT AND RIGHT DOWN HEAVYnHE",
    "AVY VERTICAL AND RIGHTnLIGHT VERTICAL AND LEFTnVERTICAL LIGHT AND LEFT HEAVYnUP HEAVY AND LEFT DOWN LI",
    "GHTnDOWN HEAVY AND LEFT UP LIGHTnVERTICAL HEAVY AND LEFT LIGHTnDOWN LIGHT AND LEFT UP HEAVYnUP LIGHT A",
    "ND LEFT DOWN HEAVYnHEAVY VERTICAL AND LEFTnLIGHT DOWN AND HORIZONTALoEFT HEAVY AND RIGHT DOWN LIGHTnRI",
    "GHT HEAVY AND LEFT DOWN LIGHTnDOWN LIGHT AND HORIZONTAL HEAVYsHEAVY AND HORIZONTAL LIGHTnRIGHT LIGHT A",
    "ND LEFT DOWN HEAVYnLEFT LIGHT AND RIGHT DOWN HEAVYnHEAVY DOWN AND HORIZONTALnLIGHT UP AND HORIZONTALoE",
    "FT HEAVY AND RIGHT UP LIGHTnRIGHT HEAVY AND LEFT UP LIGHTnUP LIGHT AND HORIZONTAL HEAVYqHEAVY AND HORI",
    "ZONTAL LIGHTnRIGHT LIGHT AND LEFT UP HEAVYnLEFT LIGHT AND RIGHT UP HEAVYnHEAVY UP AND HORIZONTALnLIGHT",
    " VERTICAL AND HORIZONTALoEFT HEAVY AND RIGHT VERTICAL LIGHTnRIGHT HEAVY AND LEFT VERTICAL LIGHTnVERTIC",
    "AL LIGHT AND HORIZONTAL HEAVYnUP HEAVY AND DOWN HORIZONTAL LIGHTnDOWN HEAVY AND UP HORIZONTAL LIGHTnVE",
    "RTICAL HEAVY AND HORIZONTAL LIGHTnLEFT UP HEAVY AND RIGHT DOWN LIGHTnRIGHT UP HEAVY AND LEFT DOWN LIGH",
    "TnLEFT DOWN HEAVY AND RIGHT UP LIGHTnRIGHT DOWN HEAVY AND LEFT UP LIGHTnDOWN LIGHT AND UP HORIZONTAL H",
    "EAVYnUP LIGHT AND DOWN HORIZONTAL HEAVYnRIGHT LIGHT AND LEFT VERTICAL HEAVYnLEFT LIGHT AND RIGHT VERTI",
    "CAL HEAVYnHEAVY VERTICAL AND HORIZONTALnLIGHT DOUBLE DASH HORIZONTALnHEAVY DOUBLE DASH HORIZONTALnLIGH",
    "T DOUBLE DASH VERTICALnHEAVY DOUBLE DASH VERTICALnDOUBLE HORIZONTALuVERTICALpWN SINGLE AND RIGHT DOUBL",
    "EsDOUBLE AND RIGHT SINGLEpUBLE DOWN AND RIGHTpWN SINGLE AND LEFT DOUBLEsDOUBLE AND LEFT SINGLEpUBLE DO",
    "WN AND LEFTnUP SINGLE AND RIGHT DOUBLEqDOUBLE AND RIGHT SINGLEnDOUBLE UP AND RIGHTnUP SINGLE AND LEFT ",
    "DOUBLEqDOUBLE AND LEFT SINGLEnDOUBLE UP AND LEFTnVERTICAL SINGLE AND RIGHT DOUBLEwDOUBLE AND RIGHT SIN",
    "GLEnDOUBLE VERTICAL AND RIGHTnVERTICAL SINGLE AND LEFT DOUBLEwDOUBLE AND LEFT SINGLEnDOUBLE VERTICAL A",
    "ND LEFTpWN SINGLE AND HORIZONTAL DOUBLEsDOUBLE AND HORIZONTAL SINGLEpUBLE DOWN AND HORIZONTALnUP SINGL",
    "E AND HORIZONTAL DOUBLEqDOUBLE AND HORIZONTAL SINGLEnDOUBLE UP AND HORIZONTALnVERTICAL SINGLE AND HORI",
    "ZONTAL DOUBLEwDOUBLE AND HORIZONTAL SINGLEnDOUBLE VERTICAL AND HORIZONTALnLIGHT ARC DOWN AND RIGHTzhLE",
    "FTxUP AND LEFTzfRIGHTtDIAGONAL UPPER RIGHT TO LOWER LEFTzjLEFT TO LOWER RIGHTzdCROSStLEFTtUPtRIGHTtDOW",
    "NnHEAVY LEFTtUPtRIGHTtDOWNnLIGHT LEFT AND HEAVY RIGHTtUP AND HEAVY DOWNnHEAVY LEFT AND LIGHT RIGHTtUP ",
    "AND LIGHT DOWNaUPPER HALF BLOCKaLOWER ONE EIGHTH BLOCKkQUARTER BLOCKgTHREE EIGHTHS BLOCKgHALF BLOCKgFI",
    "VE EIGHTHS BLOCKgTHREE QUARTERS BLOCKgSEVEN EIGHTHS BLOCKaFULL BLOCKaLEFT SEVEN EIGHTHS BLOCKfTHREE QU",
    "ARTERS BLOCKfFIVE EIGHTHS BLOCKfHALF BLOCKfTHREE EIGHTHS BLOCKfONE QUARTER BLOCKjEIGHTH BLOCKaRIGHT HA",
    "LF BLOCKaLIGHT SHADEaMEDIUM SHADEaDARK SHADEaUPPER ONE EIGHTH BLOCKaRIGHT ONE EIGHTH BLOCKaQUADRANT LO",
    "WER LEFTpRIGHTjUPPER LEFTt AND LOWER LEFT AND LOWER RIGHTzfRIGHTyUPPER RIGHT AND LOWER LEFTzvRIGHTpRIG",
    "HTu AND LOWER LEFTzk AND LOWER RIGHTaBLACK SQUAREaWHITE SQUAREm WITH ROUNDED CORNERSnCONTAINING BLACK ",
    "SMALL SQUAREaSQUARE WITH HORIZONTAL FILLmVERTICAL FILLmORTHOGONAL CROSSHATCH FILLmUPPER LEFT TO LOWER ",
    "RIGHT FILLsRIGHT TO LOWER LEFT FILLmDIAGONAL CROSSHATCH FILLaBLACK SMALL SQUAREaWHITE SMALL SQUAREaBLA",
    "CK RECTANGLEaWHITE RECTANGLEaBLACK VERTICAL RECTANGLEaWHITE VERTICAL RECTANGLEaBLACK PARALLELOGRAMaWHI",
    "TE PARALLELOGRAMaBLACK UP-POINTING TRIANGLEaWHITE UP-POINTING TRIANGLEaBLACK UP-POINTING SMALL TRIANGL",
    "EaWHITE UP-POINTING SMALL TRIANGLEaBLACK RIGHT-POINTING TRIANGLEaWHITE RIGHT-POINTING TRIANGLEaBLACK R",
    "IGHT-POINTING SMALL TRIANGLEaWHITE RIGHT-POINTING SMALL TRIANGLEaBLACK RIGHT-POINTING POINTERaWHITE RI",
    "GHT-POINTING POINTERaBLACK DOWN-POINTING TRIANGLEaWHITE DOWN-POINTING TRIANGLEaBLACK DOWN-POINTING SMA",
    "LL TRIANGLEaWHITE DOWN-POINTING SMALL TRIANGLEaBLACK LEFT-POINTING TRIANGLEaWHITE LEFT-POINTING TRIANG",
    "LEaBLACK LEFT-POINTING SMALL TRIANGLEaWHITE LEFT-POINTING SMALL TRIANGLEaBLACK LEFT-POINTING POINTERaW",
    "HITE LEFT-POINTING POINTERaBLACK DIAMONDaWHITE DIAMONDn CONTAINING BLACK SMALL DIAMONDaFISHEYEaLOZENGE",
    "aWHITE CIRCLEaDOTTED CIRCLEaCIRCLE WITH VERTICAL FILLaBULLSEYEbLACK CIRCLEaCIRCLE WITH LEFT HALF BLACK",
    "mRIGHT HALF BLACKmLOWER HALF BLACKmUPPER HALF BLACKsRIGHT QUADRANT BLACKmALL BUT UPPER LEFT QUADRANT B",
    "LACKaLEFT HALF BLACK CIRCLEaRIGHT HALF BLACK CIRCLEaINVERSE BULLETiWHITE CIRCLEaUPPER HALF INVERSE WHI",
    "TE CIRCLEaLOWER HALF INVERSE WHITE CIRCLEaUPPER LEFT QUADRANT CIRCULAR ARCgRIGHT QUADRANT CIRCULAR ARC",
    "aLOWER RIGHT QUADRANT CIRCULAR ARCgLEFT QUADRANT CIRCULAR ARCaUPPER HALF CIRCLEaLOWER HALF CIRCLEaBLAC",
    "K LOWER RIGHT TRIANGLEmLEFT TRIANGLEgUPPER LEFT TRIANGLEmRIGHT TRIANGLEaWHITE BULLETaSQUARE WITH LEFT ",
    "HALF BLACKmRIGHT HALF BLACKmUPPER LEFT DIAGONAL HALF BLACKmLOWER RIGHT DIAGONAL HALF BLACKaWHITE SQUAR",
    "E WITH VERTICAL BISECTING LINEgUP-POINTING TRIANGLE WITH DOTaUP-POINTING TRIANGLE WITH LEFT HALF BLACK",
    "zbRIGHT HALF BLACKaLARGE CIRCLEaWHITE SQUARE WITH UPPER LEFT QUADRANTsLOWER LEFT QUADRANTyRIGHT QUADRA",
    "NTsUPPER RIGHT QUADRANTgCIRCLE WITH UPPER LEFT QUADRANTsLOWER LEFT QUADRANTyRIGHT QUADRANTsUPPER RIGHT",
    " QUADRANTaUPPER LEFT TRIANGLEgRIGHT TRIANGLEaLOWER LEFT TRIANGLEaWHITE MEDIUM SQUAREaBLACK MEDIUM SQUA",
    "REaWHITE MEDIUM SMALL SQUAREaBLACK MEDIUM SMALL SQUAREaLOWER RIGHT TRIANGLEaBLACK SUN WITH RAYSaCLOUDa",
    "UMBRELLAaSNOWMANaCOMETaBLACK STARaWHITE STARaLIGHTNINGaTHUNDERSTORMaSUNaASCENDING NODEaDESCENDING NODE",
    "aCONJUNCTIONaOPPOSITIONaBLACK TELEPHONEaWHITE TELEPHONEaBALLOT BOXk WITH CHECKqXaSALTIREaUMBRELLA WITH",
    " RAIN DROPSaHOT BEVERAGEaWHITE SHOGI PIECEaBLACK SHOGI PIECEaSHAMROCKaREVERSED ROTATED FLORAL HEART BU",
    "LLETaBLACK LEFT POINTING INDEXgRIGHT POINTING INDEXaWHITE LEFT POINTING INDEXgUP POINTING INDEXgRIGHT ",
    "POINTING INDEXgDOWN POINTING INDEXaSKULL AND CROSSBONESaCAUTION SIGNaRADIOACTIVE SIGNaBIOHAZARD SIGNaC",
    "ADUCEUSaANKHaORTHODOX CROSSaCHI RHObROSS OF LORRAINEjJERUSALEMaSTAR AND CRESCENTaFARSI SYMBOLaADI SHAK",
    "TIaHAMMER AND SICKLEaPEACE SYMBOLaYIN YANGaTRIGRAM FOR HEAVENmLAKEmFIREmTHUNDERmWINDnATERmMOUNTAINmEAR",
    "THaWHEEL OF DHARMAcITE FROWNING FACEgSMILING FACEaBLACK SMILING FACEaWHITE SUN WITH RAYSaFIRST QUARTER",
    " MOONaLAST QUARTER MOONaMERCURYaFEMALE SIGNaEARTHaMALE SIGNaJUPITERaSATURNaURANUSaNEPTUNEaPLUTOaARIESa",
    "TAURUSaGEMINIaCANCERaLEOaVIRGOaLIBRAaSCORPIUSbAGITTARIUSaCAPRICORNaAQUARIUSaPISCESaWHITE CHESS KINGmQU",
    "EENmROOKmBISHOPmKNIGHTmPAWNaBLACK CHESS KINGmQUEENmROOKmBISHOPmKNIGHTmPAWNgSPADE SUITaWHITE HEART SUIT",
    "gDIAMOND SUITaBLACK CLUB SUITaWHITE SPADE SUITaBLACK HEART SUITgDIAMOND SUITaWHITE CLUB SUITaHOT SPRIN",
    "GSaQUARTER NOTEaEIGHTH NOTEaBEAMED EIGHTH NOTEShSIXTEENTH NOTESaMUSIC FLAT SIGNgNATURAL SIGNgSHARP SIG",
    "NaWEST SYRIAC CROSSaEAST SYRIAC CROSSaUNIVERSAL RECYCLING SYMBOLaRECYCLING SYMBOL FOR TYPE-1 PLASTICSz",
    "b2 PLASTICSzb3 PLASTICSzb4 PLASTICSzb5 PLASTICSzb6 PLASTICSzb7 PLASTICSvGENERIC MATERIALSaBLACK UNIVER",
    "SAL RECYCLING SYMBOLaRECYCLED PAPER SYMBOLaPARTIALLY-RECYCLED PAPER SYMBOLbERMANENT PAPER SIGNaWHEELCH",
    "AIR SYMBOLaDIE FACE-1j2j3j4j5j6aWHITE CIRCLE WITH DOT RIGHTsTWO DOTSaBLACK CIRCLE WITH WHITE DOT RIGHT",
    "sTWO WHITE DOTSaMONOGRAM FOR YANGoINaDIGRAM FOR GREATER YANGlLESSER YINtANGlGREATER YINaWHITE FLAGaBLA",
    "CK FLAGaHAMMER AND PICKaANCHORaCROSSED SWORDSaSTAFF OF AESCULAPIUSbCALESaALEMBICaFLOWERaGEARaSTAFF OF ",
    "HERMESaATOM SYMBOLaFLEUR-DE-LISaOUTLINED WHITE STARaTHREE LINES CONVERGING RIGHTxLEFTaWARNING SIGNaHIG",
    "H VOLTAGE SIGNaDOUBLED FEMALE SIGNiMALE SIGNaINTERLOCKED FEMALE AND MALE SIGNaMALE AND FEMALE SIGNfWIT",
    "H STROKE SIGNrAND MALE AND FEMALE SIGNaVERTICAL MALE WITH STROKE SIGNaHORIZONTAL MALE WITH STROKE SIGN",
    "aMEDIUM WHITE CIRCLEhBLACK CIRCLEhSMALL WHITE CIRCLEbARRIAGE SYMBOLaDIVORCE SYMBOLaUNMARRIED PARTNERSH",
    "IP SYMBOLaCOFFINaFUNERAL URNaNEUTERaCERESaPALLASaJUNOaVESTAaCHIRONaBLACK MOON LILITHaSEXTILEcMISEXTILE",
    "aQUINCUNXaSESQUIQUADRATEbOCCER BALLaBASEBALLaSQUARED KEYaWHITE DRAUGHTS MANpKINGaBLACK DRAUGHTS MANpKI",
    "NGaSNOWMAN WITHOUT SNOWbUN BEHIND CLOUDaRAINaBLACK SNOWMANaTHUNDER CLOUD AND RAINbURNED WHITE SHOGI PI",
    "ECEhBLACK SHOGI PIECEaWHITE DIAMOND IN SQUAREaCROSSING LANESaDISABLED CARaOPHIUCHUSaPICKaCAR SLIDINGaH",
    "ELMET WITH WHITE CROSSaCIRCLED CROSSING LANESbHAINSaNO ENTRYaALTERNATE ONE-WAY LEFT WAY TRAFFICaBLACK ",
    "TWO-WAY LEFT WAY TRAFFICaWHITE TWO-WAY LEFT WAY TRAFFICaBLACK LEFT LANE MERGEaWHITE LEFT LANE MERGEaDR",
    "IVE SLOW SIGNaHEAVY WHITE DOWN-POINTING TRIANGLEaLEFT CLOSED ENTRYaSQUARED SALTIREaFALLING DIAGONAL IN",
    " WHITE CIRCLE IN BLACK SQUAREaBLACK TRUCKaRESTRICTED LEFT ENTRY-1w2aASTRONOMICAL SYMBOL FOR URANUSaHEA",
    "VY CIRCLE WITH STROKE AND TWO DOTS ABOVEaPENTAGRAMaRIGHT-HANDED INTERLACED PENTAGRAMaLEFT-HANDED INTER",
    "LACED PENTAGRAMaINVERTED PENTAGRAMaBLACK CROSS ON SHIELDaSHINTO SHRINEaCHURCHbASTLEaHISTORIC SITEaGEAR",
    " WITHOUT HUBj HANDLESaMAP SYMBOL FOR LIGHTHOUSEbOUNTAINaUMBRELLA ON GROUNDaFOUNTAINbLAG IN HOLEbERRYaS",
    "AILBOATbQUARE FOUR CORNERSbKIERaICE SKATEaPERSON WITH BALLaTENTaJAPANESE BANK SYMBOLaHEADSTONE GRAVEYA",
    "RD SYMBOLaFUEL PUMPaCUP ON BLACK SQUAREaWHITE FLAG WITH HORIZONTAL MIDDLE BLACK STRIPEaBLACK SAFETY SC",
    "ISSORSaUPPER BLADE SCISSORSaBLACK SCISSORSaLOWER BLADE SCISSORSaWHITE SCISSORSgHEAVY CHECK MARKaTELEPH",
    "ONE LOCATION SIGNbAPE DRIVEaAIRPLANEaENVELOPEaRAISED FISThHANDaVICTORY HANDaWRITING HANDaLOWER RIGHT P",
    "ENCILaPENCILaUPPER RIGHT PENCILaWHITE NIBaBLACK NIBaCHECK MARKaHEAVY CHECK MARKaMULTIPLICATION XaHEAVY",
    " MULTIPLICATION XaBALLOT XaHEAVY BALLOT XaOUTLINED GREEK CROSSaHEAVY GREEK CROSSaOPEN CENTRE CROSSaHEA",
    "VY OPEN CENTRE CROSSaLATIN CROSSaSHADOWED WHITE LATIN CROSSaOUTLINED LATIN CROSSaMALTESE CROSSaSTAR OF",
    " DAVIDaFOUR TEARDROP-SPOKED ASTERISKfBALLOON-SPOKED ASTERISKaHEAVY FOUR BALLOON-SPOKED ASTERISKaFOUR C",
    "LUB-SPOKED ASTERISKaBLACK FOUR POINTED STARaWHITE FOUR POINTED STARaSPARKLESbTRESS OUTLINED WHITE STAR",
    "aCIRCLED WHITE STARaOPEN CENTRE BLACK STARaBLACK CENTRE WHITE STARaOUTLINED BLACK STARaHEAVY OUTLINED ",
    "BLACK STARaPINWHEEL STARaSHADOWED WHITE STARaHEAVY ASTERISKaOPEN CENTRE ASTERISKaEIGHT SPOKED ASTERISK",
    "gPOINTED BLACK STARoPINWHEEL STARaSIX POINTED BLACK STARaEIGHT POINTED RECTILINEAR BLACK STARaHEAVY EI",
    "GHT POINTED RECTILINEAR BLACK STARaTWELVE POINTED BLACK STARaSIXTEEN POINTED ASTERISKaTEARDROP-SPOKED ",
    "ASTERISKaOPEN CENTRE TEARDROP-SPOKED ASTERISKaHEAVY TEARDROP-SPOKED ASTERISKaSIX PETALLED BLACK AND WH",
    "ITE FLORETTEaBLACK FLORETTEaWHITE FLORETTEaEIGHT PETALLED OUTLINED BLACK FLORETTEaCIRCLED OPEN CENTRE ",
    "EIGHT POINTED STARaHEAVY TEARDROP-SPOKED PINWHEEL ASTERISKaSNOWFLAKEaTIGHT TRIFOLIATE SNOWFLAKEaHEAVY ",
    "CHEVRON SNOWFLAKEaSPARKLEaHEAVY SPARKLEaBALLOON-SPOKED ASTERISKaEIGHT TEARDROP-SPOKED PROPELLER ASTERI",
    "SKaHEAVY EIGHT TEARDROP-SPOKED PROPELLER ASTERISKaCROSS MARKaSHADOWED WHITE CIRCLEaNEGATIVE SQUARED CR",
    "OSS MARKaLOWER RIGHT DROP-SHADOWED WHITE SQUAREaUPPER RIGHT DROP-SHADOWED WHITE SQUAREaLOWER RIGHT SHA",
    "DOWED WHITE SQUAREaUPPER RIGHT SHADOWED WHITE SQUAREaBLACK QUESTION MARK ORNAMENTaWHITE QUESTION MARK ",
    "ORNAMENTgEXCLAMATION MARK ORNAMENTaBLACK DIAMOND MINUS WHITE XaHEAVY EXCLAMATION MARK SYMBOLaLIGHT VER",
    "TICAL BARaMEDIUM VERTICAL BARaHEAVY VERTICAL BARgSINGLE TURNED COMMA QUOTATION MARK ORNAMENTnCOMMA QUO",
    "TATION MARK ORNAMENTgDOUBLE TURNED COMMA QUOTATION MARK ORNAMENTnCOMMA QUOTATION MARK ORNAMENTgLOW SIN",
    "GLE COMMA QUOTATION MARK ORNAMENTkDOUBLE COMMA QUOTATION MARK ORNAMENTaCURVED STEM PARAGRAPH SIGN ORNA",
    "MENTaHEAVY EXCLAMATION MARK ORNAMENTgHEART EXCLAMATION MARK ORNAMENTgBLACK HEARTaROTATED HEAVY BLACK H",
    "EART BULLETaFLORAL HEARTaROTATED FLORAL HEART BULLETaMEDIUM LEFT PARENTHESIS ORNAMENThRIGHT PARENTHESI",
    "S ORNAMENThFLATTENED LEFT PARENTHESIS ORNAMENTrRIGHT PARENTHESIS ORNAMENThLEFT-POINTING ANGLE BRACKET ",
    "ORNAMENThRIGHT-POINTING ANGLE BRACKET ORNAMENTaHEAVY LEFT-POINTING ANGLE QUOTATION MARK ORNAMENTgRIGHT",
    "-POINTING ANGLE QUOTATION MARK ORNAMENTgLEFT-POINTING ANGLE BRACKET ORNAMENTgRIGHT-POINTING ANGLE BRAC",
    "KET ORNAMENTaLIGHT LEFT TORTOISE SHELL BRACKET ORNAMENTgRIGHT TORTOISE SHELL BRACKET ORNAMENTaMEDIUM L",
    "EFT CURLY BRACKET ORNAMENThRIGHT CURLY BRACKET ORNAMENTaDINGBAT NEGATIVE CIRCLED DIGIT ONEzgTWOzhHREEz",
    "gFOURzhIVEzgSIXzhEVENzgEIGHTzgNINEzaNUMBER TENiCIRCLED SANS-SERIF DIGIT ONEziTWOzjHREEziFOURzjIVEziSIX",
    "zjEVENziEIGHTziNINEzcNUMBER TENiNEGATIVE CIRCLED SANS-SERIF DIGIT ONEzrTWOzsHREEzrFOURzsIVEzrSIXzsEVEN",
    "zrEIGHTzrNINEzlNUMBER TENaHEAVY WIDE-HEADED RIGHTWARDS ARROWgPLUS SIGNgMINUS SIGNgDIVISION SIGNgSOUTH ",
    "EAST ARROWgRIGHTWARDS ARROWgNORTH EAST ARROWaDRAFTING POINT RIGHTWARDS ARROWaHEAVY ROUND-TIPPED RIGHTW",
    "ARDS ARROWaTRIANGLE-HEADED RIGHTWARDS ARROWaHEAVY TRIANGLE-HEADED RIGHTWARDS ARROWaDASHED TRIANGLE-HEA",
    "DED RIGHTWARDS ARROWaHEAVY DASHED TRIANGLE-HEADED RIGHTWARDS ARROWaBLACK RIGHTWARDS ARROWaTHREE-D TOP-",
    "LIGHTED RIGHTWARDS ARROWHEADiBOTTOM-LIGHTED RIGHTWARDS ARROWHEADaBLACK RIGHTWARDS ARROWHEADaHEAVY BLAC",
    "K CURVED DOWNWARDS AND RIGHTWARDS ARROWtUPWARDS AND RIGHTWARDS ARROWaSQUAT BLACK RIGHTWARDS ARROWaHEAV",
    "Y CONCAVE-POINTED BLACK RIGHTWARDS ARROWaRIGHT-SHADED WHITE RIGHTWARDS ARROWaLEFT-SHADED WHITE RIGHTWA",
    "RDS ARROWaBACK-TILTED SHADOWED WHITE RIGHTWARDS ARROWaFRONT-TILTED SHADOWED WHITE RIGHTWARDS ARROWaHEA",
    "VY LOWER RIGHT-SHADOWED WHITE RIGHTWARDS ARROWgUPPER RIGHT-SHADOWED WHITE RIGHTWARDS ARROWaNOTCHED LOW",
    "ER RIGHT-SHADOWED WHITE RIGHTWARDS ARROWaCURLY LOOPaNOTCHED UPPER RIGHT-SHADOWED WHITE RIGHTWARDS ARRO",
    "WaCIRCLED HEAVY WHITE RIGHTWARDS ARROWaWHITE-FEATHERED RIGHTWARDS ARROWaBLACK-FEATHERED SOUTH EAST ARR",
    "OWqRIGHTWARDS ARROWqNORTH EAST ARROWaHEAVY BLACK-FEATHERED SOUTH EAST ARROWwRIGHTWARDS ARROWwNORTH EAS",
    "T ARROWaTEARDROP-BARBED RIGHTWARDS ARROWaHEAVY TEARDROP-SHANKED RIGHTWARDS ARROWaWEDGE-TAILED RIGHTWAR",
    "DS ARROWaHEAVY WEDGE-TAILED RIGHTWARDS ARROWaOPEN-OUTLINED RIGHTWARDS ARROWaDOUBLE CURLY LOOPaTHREE DI",
    "MENSIONAL ANGLEaWHITE TRIANGLE CONTAINING SMALL WHITE TRIANGLEaPERPENDICULARaOPEN SUBSEThPERSETaLEFT S",
    "-SHAPED BAG DELIMITERaRIGHT S-SHAPED BAG DELIMITERaOR WITH DOT INSIDEaREVERSE SOLIDUS PRECEDING SUBSET",
    "aSUPERSET PRECEDING SOLIDUSaVERTICAL BAR WITH HORIZONTAL STROKEaMATHEMATICAL RISING DIAGONALaLONG DIVI",
    "SIONaMATHEMATICAL FALLING DIAGONALaSQUARED LOGICAL ANDqORaWHITE DIAMOND WITH CENTRED DOTaAND WITH DOTa",
    "ELEMENT OF OPENING UPWARDSaLOWER RIGHT CORNER WITH DOTaUPPER LEFT CORNER WITH DOTaLEFT OUTER JOINaRIGH",
    "T OUTER JOINaFULL OUTER JOINaLARGE UP TACKgDOWN TACKbEFT AND RIGHT DOUBLE TURNSTILEpTACKfMULTIMAPbONG ",
    "RIGHT TACKfLEFT TACKaUP TACK WITH CIRCLE ABOVEaLOZENGE DIVIDED BY HORIZONTAL RULEaWHITE CONCAVE-SIDED ",
    "DIAMONDzc WITH LEFTWARDS TICKziRIGHTWARDS TICKgSQUARE WITH LEFTWARDS TICKsRIGHTWARDS TICKaMATHEMATICAL",
    " LEFT WHITE SQUARE BRACKETnRIGHT WHITE SQUARE BRACKETnLEFT ANGLE BRACKETnRIGHT ANGLE BRACKETnLEFT DOUB",
    "LE ANGLE BRACKETnRIGHT DOUBLE ANGLE BRACKETnLEFT WHITE TORTOISE SHELL BRACKETnRIGHT WHITE TORTOISE SHE",
    "LL BRACKETnLEFT FLATTENED PARENTHESISnRIGHT FLATTENED PARENTHESISaUPWARDS QUADRUPLE ARROWaDOWNWARDS QU",
    "ADRUPLE ARROWaANTICLOCKWISE GAPPED CIRCLE ARROWaCLOCKWISE GAPPED CIRCLE ARROWaRIGHT ARROW WITH CIRCLED",
    " PLUSaLONG LEFTWARDS ARROWfRIGHTWARDS ARROWfLEFT RIGHT ARROWjWARDS DOUBLE ARROWfRIGHTWARDS DOUBLE ARRO",
    "WfLEFT RIGHT DOUBLE ARROWjWARDS ARROW FROM BARfRIGHTWARDS ARROW FROM BARfLEFTWARDS DOUBLE ARROW FROM B",
    "ARfRIGHTWARDS DOUBLE ARROW FROM BARqSQUIGGLE ARROWaBRAILLE PATTERN BLANKqDOTS-1v2v12v3v13v23v123v4v14v",
    "24v124v34v134v234v1234v5v15v25v125v35v135v235v1235v45v145v245v1245v345v1345v2345v12345v6v16v26v126v36v",
    "136v236v1236v46v146v246v1246v346v1346v2346v12346v56v156v256v1256v356v1356v2356v12356v456v1456v2456v124",
    "56v3456v13456v23456v123456v7v17v27v127v37v137v237v1237v47v147v247v1247v347v1347v2347v12347v57v157v257v",
    "1257v357v1357v2357v12357v457v1457v2457v12457v3457v13457v23457v123457v67v167v267v1267v367v1367v2367v123",
    "67v467v1467v2467v12467v3467v13467v23467v123467v567v1567v2567v12567v3567v13567v23567v123567v4567v14567v",
    "24567v124567v34567v134567v234567v1234567v8v18v28v128v38v138v238v1238v48v148v248v1248v348v1348v2348v123",
    "48v58v158v258v1258v358v1358v2358v12358v458v1458v2458v12458v3458v13458v23458v123458v68v168v268v1268v368",
    "v1368v2368v12368v468v1468v2468v12468v3468v13468v23468v123468v568v1568v2568v12568v3568v13568v23568v1235",
    "68v4568v14568v24568v124568v34568v134568v234568v1234568v78v178v278v1278v378v1378v2378v12378v478v1478v24",
    "78v12478v3478v13478v23478v123478v578v1578v2578v12578v3578v13578v23578v123578v4578v14578v24578v124578v3",
    "4578v134578v234578v1234578v678v1678v2678v12678v3678v13678v23678v123678v4678v14678v24678v124678v34678v1",
    "34678v234678v1234678v5678v15678v25678v125678v35678v135678v235678v1235678v45678v145678v245678v1245678v3",
    "45678v1345678v2345678v12345678aRIGHTWARDS TWO-HEADED ARROW WITH VERTICAL STROKEziDOUBLE VERTICAL STROK",
    "EaLEFTWARDS DOUBLE ARROW WITH VERTICAL STROKEaRIGHTWARDS DOUBLE ARROW WITH VERTICAL STROKEaLEFT RIGHT ",
    "DOUBLE ARROW WITH VERTICAL STROKEaRIGHTWARDS TWO-HEADED ARROW FROM BARaLEFTWARDS DOUBLE ARROW FROM BAR",
    "aRIGHTWARDS DOUBLE ARROW FROM BARaDOWNWARDS ARROW WITH HORIZONTAL STROKEaUPWARDS ARROW WITH HORIZONTAL",
    " STROKEiTRIPLE ARROWaDOWNWARDS TRIPLE ARROWaLEFTWARDS DOUBLE DASH ARROWaRIGHTWARDS DOUBLE DASH ARROWaL",
    "EFTWARDS TRIPLE DASH ARROWaRIGHTWARDS TRIPLE DASH ARROWmWO-HEADED TRIPLE DASH ARROWlARROW WITH DOTTED ",
    "STEMaUPWARDS ARROW TO BARaDOWNWARDS ARROW TO BARaRIGHTWARDS ARROW WITH TAIL WITH VERTICAL STROKEzhDOUB",
    "LE VERTICAL STROKElTWO-HEADED ARROW WITH TAILzm WITH VERTICAL STROKEzsDOUBLE VERTICAL STROKEaLEFTWARDS",
    " ARROW-TAILaRIGHTWARDS ARROW-TAILaLEFTWARDS DOUBLE ARROW-TAILaRIGHTWARDS DOUBLE ARROW-TAILaLEFTWARDS A",
    "RROW TO BLACK DIAMONDaRIGHTWARDS ARROW TO BLACK DIAMONDaLEFTWARDS ARROW FROM BAR TO BLACK DIAMONDaRIGH",
    "TWARDS ARROW FROM BAR TO BLACK DIAMONDaNORTH WEST AND SOUTH EAST ARROWgEAST AND SOUTH WEST ARROWgWEST ",
    "ARROW WITH HOOKgEAST ARROW WITH HOOKaSOUTH EAST ARROW WITH HOOKgWEST ARROW WITH HOOKaNORTH WEST ARROW ",
    "AND NORTH EAST ARROWgEAST ARROW AND SOUTH EAST ARROWaSOUTH EAST ARROW AND SOUTH WEST ARROWgWEST ARROW ",
    "AND NORTH WEST ARROWaRISING DIAGONAL CROSSING FALLING DIAGONALaFALLING DIAGONAL CROSSING RISING DIAGON",
    "ALaSOUTH EAST ARROW CROSSING NORTH EAST ARROWaNORTH EAST ARROW CROSSING SOUTH EAST ARROWaFALLING DIAGO",
    "NAL CROSSING NORTH EAST ARROWaRISING DIAGONAL CROSSING SOUTH EAST ARROWaNORTH EAST ARROW CROSSING NORT",
    "H WEST ARROWgWEST ARROW CROSSING NORTH EAST ARROWaWAVE ARROW POINTING DIRECTLY RIGHTaARROW POINTING RI",
    "GHTWARDS THEN CURVING UPWARDSzoDOWNWARDSpDOWNWARDS THEN CURVING LEFTWARDSznRIGHTWARDSaRIGHT-SIDE ARC C",
    "LOCKWISE ARROWaLEFT-SIDE ARC ANTICLOCKWISE ARROWaTOP ARC ANTICLOCKWISE ARROWaBOTTOM ARC ANTICLOCKWISE ",
    "ARROWaTOP ARC CLOCKWISE ARROW WITH MINUSiANTICLOCKWISE ARROW WITH PLUSaLOWER RIGHT SEMICIRCULAR CLOCKW",
    "ISE ARROWgLEFT SEMICIRCULAR ANTICLOCKWISE ARROWaANTICLOCKWISE CLOSED CIRCLE ARROWaCLOCKWISE CLOSED CIR",
    "CLE ARROWaRIGHTWARDS ARROW ABOVE SHORT LEFTWARDS ARROWaLEFTWARDS ARROW ABOVE SHORT RIGHTWARDS ARROWaSH",
    "ORT RIGHTWARDS ARROW ABOVE LEFTWARDS ARROWaRIGHTWARDS ARROW WITH PLUS BELOWaLEFTWARDS ARROW WITH PLUS ",
    "BELOWaRIGHTWARDS ARROW THROUGH XaLEFT RIGHT ARROW THROUGH SMALL CIRCLEaUPWARDS TWO-HEADED ARROW FROM S",
    "MALL CIRCLEaLEFT BARB UP RIGHT BARB DOWN HARPOONkDOWN RIGHT BARB UP HARPOONaUP BARB RIGHT DOWN BARB LE",
    "FT HARPOONiLEFT DOWN BARB RIGHT HARPOONaLEFT BARB UP RIGHT BARB UP HARPOONaUP BARB RIGHT DOWN BARB RIG",
    "HT HARPOONaLEFT BARB DOWN RIGHT BARB DOWN HARPOONaUP BARB LEFT DOWN BARB LEFT HARPOONaLEFTWARDS HARPOO",
    "N WITH BARB UP TO BARaRIGHTWARDS HARPOON WITH BARB UP TO BARaUPWARDS HARPOON WITH BARB RIGHT TO BARaDO",
    "WNWARDS HARPOON WITH BARB RIGHT TO BARaLEFTWARDS HARPOON WITH BARB DOWN TO BARaRIGHTWARDS HARPOON WITH",
    " BARB DOWN TO BARaUPWARDS HARPOON WITH BARB LEFT TO BARaDOWNWARDS HARPOON WITH BARB LEFT TO BARaLEFTWA",
    "RDS HARPOON WITH BARB UP FROM BARaRIGHTWARDS HARPOON WITH BARB UP FROM BARaUPWARDS HARPOON WITH BARB R",
    "IGHT FROM BARaDOWNWARDS HARPOON WITH BARB RIGHT FROM BARaLEFTWARDS HARPOON WITH BARB DOWN FROM BARaRIG",
    "HTWARDS HARPOON WITH BARB DOWN FROM BARaUPWARDS HARPOON WITH BARB LEFT FROM BARaDOWNWARDS HARPOON WITH",
    " BARB LEFT FROM BARaLEFTWARDS HARPOON WITH BARB UP ABOVE LEFTWARDS HARPOON WITH BARB DOWNaUPWARDS HARP",
    "OON WITH BARB LEFT BESIDE UPWARDS HARPOON WITH BARB RIGHTaRIGHTWARDS HARPOON WITH BARB UP ABOVE RIGHTW",
    "ARDS HARPOON WITH BARB DOWNaDOWNWARDS HARPOON WITH BARB LEFT BESIDE DOWNWARDS HARPOON WITH BARB RIGHTa",
    "LEFTWARDS HARPOON WITH BARB UP ABOVE RIGHTWARDS HARPOON WITH BARB UPzdDOWN ABOVE RIGHTWARDS HARPOON WI",
    "TH BARB DOWNaRIGHTWARDS HARPOON WITH BARB UP ABOVE LEFTWARDS HARPOON WITH BARB UPzeDOWN ABOVE LEFTWARD",
    "S HARPOON WITH BARB DOWNaLEFTWARDS HARPOON WITH BARB UP ABOVE LONG DASHzdDOWN BELOW LONG DASHaRIGHTWAR",
    "DS HARPOON WITH BARB UP ABOVE LONG DASHzeDOWN BELOW LONG DASHaUPWARDS HARPOON WITH BARB LEFT BESIDE DO",
    "WNWARDS HARPOON WITH BARB RIGHTaDOWNWARDS HARPOON WITH BARB LEFT BESIDE UPWARDS HARPOON WITH BARB RIGH",
    "TaRIGHT DOUBLE ARROW WITH ROUNDED HEADaEQUALS SIGN ABOVE RIGHTWARDS ARROWaTILDE OPERATOR ABOVE RIGHTWA",
    "RDS ARROWaLEFTWARDS ARROW ABOVE TILDE OPERATORaRIGHTWARDS ARROW ABOVE TILDE OPERATORxALMOST EQUAL TOaL",
    "ESS-THAN ABOVE LEFTWARDS ARROWcFTWARDS ARROW THROUGH LESS-THANaGREATER-THAN ABOVE RIGHTWARDS ARROWaSUB",
    "SET ABOVE RIGHTWARDS ARROWaLEFTWARDS ARROW THROUGH SUBSETaSUPERSET ABOVE LEFTWARDS ARROWaLEFT FISH TAI",
    "LaRIGHT FISH TAILaUP FISH TAILaDOWN FISH TAILaTRIPLE VERTICAL BAR DELIMITERaZ NOTATION SPOTlTYPE COLON",
    "aLEFT WHITE CURLY BRACKETaRIGHT WHITE CURLY BRACKETaLEFT WHITE PARENTHESISaRIGHT WHITE PARENTHESISaZ N",
    "OTATION LEFT IMAGE BRACKETlRIGHT IMAGE BRACKETlLEFT BINDING BRACKETlRIGHT BINDING BRACKETaLEFT SQUARE ",
    "BRACKET WITH UNDERBARaRIGHT SQUARE BRACKET WITH UNDERBARaLEFT SQUARE BRACKET WITH TICK IN TOP CORNERaR",
    "IGHT SQUARE BRACKET WITH TICK IN BOTTOM CORNERaLEFT SQUARE BRACKET WITH TICK IN BOTTOM CORNERaRIGHT SQ",
    "UARE BRACKET WITH TICK IN TOP CORNERaLEFT ANGLE BRACKET WITH DOTaRIGHT ANGLE BRACKET WITH DOTaLEFT ARC",
    " LESS-THAN BRACKETaRIGHT ARC GREATER-THAN BRACKETaDOUBLE LEFT ARC GREATER-THAN BRACKEThRIGHT ARC LESS-",
    "THAN BRACKETaLEFT BLACK TORTOISE SHELL BRACKETaRIGHT BLACK TORTOISE SHELL BRACKETaDOTTED FENCEaVERTICA",
    "L ZIGZAG LINEaMEASURED ANGLE OPENING LEFTaRIGHT ANGLE VARIANT WITH SQUAREaMEASURED RIGHT ANGLE WITH DO",
    "TaANGLE WITH S INSIDEbCUTE ANGLEaSPHERICAL ANGLE OPENING LEFTyUPaTURNED ANGLEaREVERSED ANGLEaANGLE WIT",
    "H UNDERBARaREVERSED ANGLE WITH UNDERBARaOBLIQUE ANGLE OPENING UPwDOWNaMEASURED ANGLE WITH OPEN ARM END",
    "ING IN ARROW POINTING UP AND RIGHTzzlLEFTzzeDOWN AND RIGHTzznLEFTzzeRIGHT AND UPzzeLEFT AND UPzzeRIGHT",
    " AND DOWNzzeLEFT AND DOWNaREVERSED EMPTY SETaEMPTY SET WITH OVERBARpSMALL CIRCLE ABOVEpRIGHT ARROW ABO",
    "VEpLEFT ARROW ABOVEaCIRCLE WITH HORIZONTAL BARgD VERTICAL BARiPARALLELiREVERSE SOLIDUSiPERPENDICULARg ",
    "DIVIDED BY HORIZONTAL BAR AND TOP HALF DIVIDED BY VERTICAL BARhWITH SUPERIMPOSED XgD ANTICLOCKWISE-ROT",
    "ATED DIVISION SIGNaUP ARROW THROUGH CIRCLEaCIRCLED WHITE BULLETiBULLETiLESS-THANiGREATER-THANg WITH SM",
    "ALL CIRCLE TO THE RIGHTmTWO HORIZONTAL STROKES TO THE RIGHTaSQUARED RISING DIAGONAL SLASHiFALLING DIAG",
    "ONAL SLASHiASTERISKiSMALL CIRCLEjQUAREaTWO JOINED SQUARESbRIANGLE WITH DOT ABOVEoUNDERBARaS IN TRIANGL",
    "EaTRIANGLE WITH SERIFS AT BOTTOMaRIGHT TRIANGLE ABOVE LEFT TRIANGLEaLEFT TRIANGLE BESIDE VERTICAL BARa",
    "VERTICAL BAR BESIDE RIGHT TRIANGLEaBOWTIE WITH LEFT HALF BLACKmRIGHT HALF BLACKbLACK BOWTIEaTIMES WITH",
    " LEFT HALF BLACKlRIGHT HALF BLACKaWHITE HOURGLASSaBLACK HOURGLASSaLEFT WIGGLY FENCEaRIGHT WIGGLY FENCE",
    "aLEFT DOUBLE WIGGLY FENCEaRIGHT DOUBLE WIGGLY FENCEaINCOMPLETE INFINITYaTIE OVER INFINITYaINFINITY NEG",
    "ATED WITH VERTICAL BARaDOUBLE-ENDED MULTIMAPaSQUARE WITH CONTOURED OUTLINEaINCREASES ASaSHUFFLE PRODUC",
    "TaEQUALS SIGN AND SLANTED PARALLELzh WITH TILDE ABOVEaIDENTICAL TO AND SLANTED PARALLELaGLEICH STARKaT",
    "HERMODYNAMICaDOWN-POINTING TRIANGLE WITH LEFT HALF BLACKzdRIGHT HALF BLACKaBLACK DIAMOND WITH DOWN ARR",
    "OWgLOZENGEaWHITE CIRCLE WITH DOWN ARROWaBLACK CIRCLE WITH DOWN ARROWaERROR-BARRED WHITE SQUAREnBLACK S",
    "QUAREnWHITE DIAMONDnBLACK DIAMONDnWHITE CIRCLEnBLACK CIRCLEaRULE-DELAYEDbEVERSE SOLIDUS OPERATORaSOLID",
    "US WITH OVERBARaREVERSE SOLIDUS WITH HORIZONTAL STROKEaBIG SOLIDUSeREVERSE SOLIDUSaDOUBLE PLUSaTRIPLE ",
    "PLUSaLEFT-POINTING CURVED ANGLE BRACKETaRIGHT-POINTING CURVED ANGLE BRACKETaTINYaMINYaN-ARY CIRCLED DO",
    "T OPERATORoPLUS OPERATORoTIMES OPERATORgUNION OPERATOR WITH DOTzbPLUSgSQUARE INTERSECTION OPERATORnUNI",
    "ON OPERATORaTWO LOGICAL AND OPERATORmOR OPERATORaN-ARY TIMES OPERATORaMODULO TWO SUMaSUMMATION WITH IN",
    "TEGRALaQUADRUPLE INTEGRAL OPERATORaFINITE PART INTEGRALaINTEGRAL WITH DOUBLE STROKEjAVERAGE WITH SLASH",
    "aCIRCULATION FUNCTIONaANTICLOCKWISE INTEGRATIONaLINE INTEGRATION WITH RECTANGULAR PATH AROUND POLEwSEM",
    "ICIRCULAR PATH AROUND POLErNOT INCLUDING THE POLEaINTEGRAL AROUND A POINT OPERATORaQUATERNION INTEGRAL",
    " OPERATORaINTEGRAL WITH LEFTWARDS ARROW WITH HOOKoTIMES SIGNoINTERSECTIONoUNIONoOVERBARoUNDERBARaJOINa",
    "LARGE LEFT TRIANGLE OPERATORaZ NOTATION SCHEMA COMPOSITIONsPIPINGtROJECTIONaPLUS SIGN WITH SMALL CIRCL",
    "E ABOVEpCIRCUMFLEX ACCENT ABOVEpTILDE ABOVEpDOT BELOWpTILDE BELOWpSUBSCRIPT TWOpBLACK TRIANGLEaMINUS S",
    "IGN WITH COMMA ABOVEqDOT BELOWqFALLING DOTSqRISING DOTSaPLUS SIGN IN LEFT HALF CIRCLEnRIGHT HALF CIRCL",
    "EaVECTOR OR CROSS PRODUCTaMULTIPLICATION SIGN WITH DOT ABOVEzaUNDERBARaSEMIDIRECT PRODUCT WITH BOTTOM ",
    "CLOSEDbMASH PRODUCTaMULTIPLICATION SIGN IN LEFT HALF CIRCLExRIGHT HALF CIRCLEaCIRCLED MULTIPLICATION S",
    "IGN WITH CIRCUMFLEX ACCENTaMULTIPLICATION SIGN IN DOUBLE CIRCLEaCIRCLED DIVISION SIGNaPLUS SIGN IN TRI",
    "ANGLEaMINUS SIGN IN TRIANGLEbULTIPLICATION SIGN IN TRIANGLEaINTERIOR PRODUCTaRIGHTHAND INTERIOR PRODUC",
    "TaZ NOTATION RELATIONAL COMPOSITIONaAMALGAMATION OR COPRODUCTaINTERSECTION WITH DOTaUNION WITH MINUS S",
    "IGNlOVERBARaINTERSECTION WITH OVERBARsLOGICAL ANDaUNION WITH LOGICAL ORgABOVE INTERSECTIONaINTERSECTIO",
    "N ABOVE UNIONaUNION ABOVE BAR ABOVE INTERSECTIONaINTERSECTION ABOVE BAR ABOVE UNIONaUNION BESIDE AND J",
    "OINED WITH UNIONaINTERSECTION BESIDE AND JOINED WITH INTERSECTIONaCLOSED UNION WITH SERIFShINTERSECTIO",
    "N WITH SERIFSaDOUBLE SQUARE INTERSECTIONoUNIONaCLOSED UNION WITH SERIFS AND SMASH PRODUCTaLOGICAL AND ",
    "WITH DOT ABOVEiOR WITH DOT ABOVEaDOUBLE LOGICAL ANDpORaTWO INTERSECTING LOGICAL ANDzaORaSLOPING LARGE ",
    "ORoANDaLOGICAL OR OVERLAPPING LOGICAL ANDiAND WITH MIDDLE STEMiOR WITH MIDDLE STEMiAND WITH HORIZONTAL",
    " DASHiOR WITH HORIZONTAL DASHiAND WITH DOUBLE OVERBARrUNDERBARrDOUBLE UNDERBARaSMALL VEE WITH UNDERBAR",
    "aLOGICAL OR WITH DOUBLE OVERBARxUNDERBARaZ NOTATION DOMAIN ANTIRESTRICTIONlRANGE ANTIRESTRICTIONaEQUAL",
    "S SIGN WITH DOT BELOWaIDENTICAL WITH DOT ABOVEaTRIPLE HORIZONTAL BAR WITH DOUBLE VERTICAL STROKEzcTRIP",
    "LE VERTICAL STROKEbILDE OPERATOR WITH DOT ABOVEuRISING DOTSaSIMILAR MINUS SIMILARaCONGRUENT WITH DOT A",
    "BOVEaEQUALS WITH ASTERISKaALMOST EQUAL TO WITH CIRCUMFLEX ACCENTbPPROXIMATELY EQUAL OR EQUAL TOaEQUALS",
    " SIGN ABOVE PLUS SIGNaPLUS SIGN ABOVE EQUALS SIGNaEQUALS SIGN ABOVE TILDE OPERATORaDOUBLE COLON EQUALa",
    "TWO CONSECUTIVE EQUALS SIGNSbHREE CONSECUTIVE EQUALS SIGNSaEQUALS SIGN WITH TWO DOTS ABOVE AND TWO DOT",
    "S BELOWdIVALENT WITH FOUR DOTS ABOVEaLESS-THAN WITH CIRCLE INSIDEaGREATER-THAN WITH CIRCLE INSIDEaLESS",
    "-THAN WITH QUESTION MARK ABOVEaGREATER-THAN WITH QUESTION MARK ABOVEaLESS-THAN OR SLANTED EQUAL TOaGRE",
    "ATER-THAN OR SLANTED EQUAL TOaLESS-THAN OR SLANTED EQUAL TO WITH DOT INSIDEaGREATER-THAN OR SLANTED EQ",
    "UAL TO WITH DOT INSIDEaLESS-THAN OR SLANTED EQUAL TO WITH DOT ABOVEaGREATER-THAN OR SLANTED EQUAL TO W",
    "ITH DOT ABOVEaLESS-THAN OR SLANTED EQUAL TO WITH DOT ABOVE RIGHTaGREATER-THAN OR SLANTED EQUAL TO WITH",
    " DOT ABOVE LEFTaLESS-THAN OR APPROXIMATEaGREATER-THAN OR APPROXIMATEaLESS-THAN AND SINGLE-LINE NOT EQU",
    "AL TOaGREATER-THAN AND SINGLE-LINE NOT EQUAL TOaLESS-THAN AND NOT APPROXIMATEaGREATER-THAN AND NOT APP",
    "ROXIMATEaLESS-THAN ABOVE DOUBLE-LINE EQUAL ABOVE GREATER-THANaGREATER-THAN ABOVE DOUBLE-LINE EQUAL ABO",
    "VE LESS-THANaLESS-THAN ABOVE SIMILAR OR EQUALaGREATER-THAN ABOVE SIMILAR OR EQUALaLESS-THAN ABOVE SIMI",
    "LAR ABOVE GREATER-THANaGREATER-THAN ABOVE SIMILAR ABOVE LESS-THANaLESS-THAN ABOVE GREATER-THAN ABOVE D",
    "OUBLE-LINE EQUALaGREATER-THAN ABOVE LESS-THAN ABOVE DOUBLE-LINE EQUALaLESS-THAN ABOVE SLANTED EQUAL AB",
    "OVE GREATER-THAN ABOVE SLANTED EQUALaGREATER-THAN ABOVE SLANTED EQUAL ABOVE LESS-THAN ABOVE SLANTED EQ",
    "UALaSLANTED EQUAL TO OR LESS-THANuGREATER-THANuLESS-THAN WITH DOT INSIDEuGREATER-THAN WITH DOT INSIDEa",
    "DOUBLE-LINE EQUAL TO OR LESS-THANyGREATER-THANmSLANTED EQUAL TO OR LESS-THANzhGREATER-THANaSIMILAR OR ",
    "LESS-THANlGREATER-THANiABOVE LESS-THAN ABOVE EQUALS SIGNoGREATER-THAN ABOVE EQUALS SIGNaDOUBLE NESTED ",
    "LESS-THANoGREATER-THANoLESS-THAN WITH UNDERBARaGREATER-THAN OVERLAPPING LESS-THANnBESIDE LESS-THANaLES",
    "S-THAN CLOSED BY CURVEaGREATER-THAN CLOSED BY CURVEaLESS-THAN CLOSED BY CURVE ABOVE SLANTED EQUALaGREA",
    "TER-THAN CLOSED BY CURVE ABOVE SLANTED EQUALaSMALLER THANaLARGER THANaSMALLER THAN OR EQUAL TOaLARGER ",
    "THAN OR EQUAL TOaEQUALS SIGN WITH BUMPY ABOVEaPRECEDES ABOVE SINGLE-LINE EQUALS SIGNaSUCCEEDS ABOVE SI",
    "NGLE-LINE EQUALS SIGNaPRECEDES ABOVE SINGLE-LINE NOT EQUAL TOaSUCCEEDS ABOVE SINGLE-LINE NOT EQUAL TOa",
    "PRECEDES ABOVE EQUALS SIGNaSUCCEEDS ABOVE EQUALS SIGNaPRECEDES ABOVE NOT EQUAL TOaSUCCEEDS ABOVE NOT E",
    "QUAL TOaPRECEDES ABOVE ALMOST EQUAL TOaSUCCEEDS ABOVE ALMOST EQUAL TOaPRECEDES ABOVE NOT ALMOST EQUAL ",
    "TOaSUCCEEDS ABOVE NOT ALMOST EQUAL TOaDOUBLE PRECEDEShSUCCEEDSaSUBSET WITH DOTcPERSET WITH DOTcBSET WI",
    "TH PLUS SIGN BELOWcPERSET WITH PLUS SIGN BELOWcBSET WITH MULTIPLICATION SIGN BELOWcPERSET WITH MULTIPL",
    "ICATION SIGN BELOWcBSET OF OR EQUAL TO WITH DOT ABOVEcPERSET OF OR EQUAL TO WITH DOT ABOVEcBSET OF ABO",
    "VE EQUALS SIGNcPERSET OF ABOVE EQUALS SIGNcBSET OF ABOVE TILDE OPERATORcPERSET OF ABOVE TILDE OPERATOR",
    "cBSET OF ABOVE ALMOST EQUAL TOcPERSET OF ABOVE ALMOST EQUAL TOcBSET OF ABOVE NOT EQUAL TOcPERSET OF AB",
    "OVE NOT EQUAL TObQUARE LEFT OPEN BOX OPERATORhRIGHT OPEN BOX OPERATORaCLOSED SUBSETjPERSETjBSET OR EQU",
    "AL TOjPERSET OR EQUAL TOaSUBSET ABOVE SUPERSETcPERSET ABOVE SUBSETcBSET ABOVE SUBSETcPERSET ABOVE SUPE",
    "RSETjBESIDE SUBSETqAND JOINED BY DASH WITH SUBSETaELEMENT OF OPENING DOWNWARDSaPITCHFORK WITH TEE TOPa",
    "TRANSVERSAL INTERSECTIONaFORKINGaNONFORKINGaSHORT LEFT TACKgDOWN TACKgUP TACKaPERPENDICULAR WITH SaVER",
    "TICAL BAR TRIPLE RIGHT TURNSTILEaDOUBLE VERTICAL BAR LEFT TURNSTILEaVERTICAL BAR DOUBLE LEFT TURNSTILE",
    "aDOUBLE VERTICAL BAR DOUBLE LEFT TURNSTILEaLONG DASH FROM LEFT MEMBER OF DOUBLE VERTICALaSHORT DOWN TA",
    "CK WITH OVERBARgUP TACK WITH UNDERBARoABOVE SHORT DOWN TACKaDOUBLE DOWN TACKhUP TACKhSTROKE NOT SIGNaR",
    "EVERSED DOUBLE STROKE NOT SIGNaDOES NOT DIVIDE WITH REVERSED NEGATION SLASHaVERTICAL LINE WITH CIRCLE ",
    "ABOVEzbBELOWaDOWN TACK WITH CIRCLE BELOWaPARALLEL WITH HORIZONTAL STROKEoTILDE OPERATORaTRIPLE VERTICA",
    "L BAR BINARY RELATIONuWITH HORIZONTAL STROKEhCOLON OPERATORhNESTED LESS-THANoGREATER-THANaDOUBLE-LINE ",
    "SLANTED LESS-THAN OR EQUAL TOuGREATER-THAN OR EQUAL TOaTRIPLE SOLIDUS BINARY RELATIONaLARGE TRIPLE VER",
    "TICAL BAR OPERATORaDOUBLE SOLIDUS OPERATORaWHITE VERTICAL BARaN-ARY WHITE VERTICAL BARbORTH EAST WHITE",
    " ARROWgWEST WHITE ARROWaSOUTH EAST WHITE ARROWgWEST WHITE ARROWaLEFT RIGHT WHITE ARROWeWARDS BLACK ARR",
    "OWaUPWARDS BLACK ARROWaDOWNWARDS BLACK ARROWaNORTH EAST BLACK ARROWgWEST BLACK ARROWaSOUTH EAST BLACK ",
    "ARROWgWEST BLACK ARROWaLEFT RIGHT BLACK ARROWaUP DOWN BLACK ARROWaRIGHTWARDS ARROW WITH TIP DOWNWARDSz",
    "bUPWARDSaLEFTWARDS ARROW WITH TIP DOWNWARDSzaUPWARDSaSQUARE WITH TOP HALF BLACKmBOTTOM HALF BLACKmUPPE",
    "R RIGHT DIAGONAL HALF BLACKmLOWER LEFT DIAGONAL HALF BLACKaDIAMOND WITH LEFT HALF BLACKnRIGHT HALF BLA",
    "CKnTOP HALF BLACKnBOTTOM HALF BLACKbOTTED SQUAREaBLACK LARGE SQUAREaWHITE LARGE SQUAREaBLACK VERY SMAL",
    "L SQUAREaWHITE VERY SMALL SQUAREaBLACK PENTAGONaWHITE PENTAGONgHEXAGONaBLACK HEXAGONaHORIZONTAL BLACK ",
    "HEXAGONaBLACK LARGE CIRCLEgMEDIUM DIAMONDaWHITE MEDIUM DIAMONDaBLACK MEDIUM LOZENGEaWHITE MEDIUM LOZEN",
    "GEaBLACK SMALL DIAMONDmLOZENGEaWHITE SMALL LOZENGEaBLACK HORIZONTAL ELLIPSEaWHITE HORIZONTAL ELLIPSEaB",
    "LACK VERTICAL ELLIPSEaWHITE VERTICAL ELLIPSEaLEFT ARROW WITH SMALL CIRCLEaTHREE LEFTWARDS ARROWSaLEFT ",
    "ARROW WITH CIRCLED PLUSbONG LEFTWARDS SQUIGGLE ARROWbEFTWARDS TWO-HEADED ARROW WITH VERTICAL STROKEzhD",
    "OUBLE VERTICAL STROKEzcFROM BARvTRIPLE DASH ARROWkARROW WITH DOTTED STEMvTAIL WITH VERTICAL STROKEzgDO",
    "UBLE VERTICAL STROKEkTWO-HEADED ARROW WITH TAILzl WITH VERTICAL STROKEzrDOUBLE VERTICAL STROKEkARROW T",
    "HROUGH XaWAVE ARROW POINTING DIRECTLY LEFTaEQUALS SIGN ABOVE LEFTWARDS ARROWaREVERSE TILDE OPERATOR AB",
    "OVE LEFTWARDS ARROWaLEFTWARDS ARROW ABOVE REVERSE ALMOST EQUAL TOaRIGHTWARDS ARROW THROUGH GREATER-THA",
    "NzaSUPERSETaLEFTWARDS QUADRUPLE ARROWaRIGHTWARDS QUADRUPLE ARROWbEVERSE TILDE OPERATOR ABOVE RIGHTWARD",
    "S ARROWbIGHTWARDS ARROW ABOVE REVERSE ALMOST EQUAL TOaTILDE OPERATOR ABOVE LEFTWARDS ARROWaLEFTWARDS A",
    "RROW ABOVE ALMOST EQUAL TOwREVERSE TILDE OPERATORaRIGHTWARDS ARROW ABOVE REVERSE TILDE OPERATORaDOWNWA",
    "RDS TRIANGLE-HEADED ZIGZAG ARROWaSHORT SLANTED NORTH ARROWgBACKSLANTED SOUTH ARROWaWHITE MEDIUM STARaB",
    "LACK SMALL STARaWHITE SMALL STARaBLACK RIGHT-POINTING PENTAGONaWHITE RIGHT-POINTING PENTAGONaHEAVY LAR",
    "GE CIRCLEgOVAL WITH OVAL INSIDEgCIRCLE WITH CIRCLE INSIDElEmD SALTIREaSLANTED NORTH ARROW WITH HOOKED ",
    "HEADaBACKSLANTED SOUTH ARROW WITH HOOKED TAILaSLANTED NORTH ARROW WITH HORIZONTAL TAILaBACKSLANTED SOU",
    "TH ARROW WITH HORIZONTAL TAILbENT ARROW POINTING DOWNWARDS THEN NORTH EASTaSHORT BENT ARROW POINTING D",
    "OWNWARDS THEN NORTH EASTaLEFTWARDS TRIANGLE-HEADED ARROWaUPWARDS TRIANGLE-HEADED ARROWaRIGHTWARDS TRIA",
    "NGLE-HEADED ARROWaDOWNWARDS TRIANGLE-HEADED ARROWaLEFT RIGHT TRIANGLE-HEADED ARROWaUP DOWN TRIANGLE-HE",
    "ADED ARROWaNORTH WEST TRIANGLE-HEADED ARROWgEAST TRIANGLE-HEADED ARROWaSOUTH EAST TRIANGLE-HEADED ARRO",
    "WgWEST TRIANGLE-HEADED ARROWaLEFTWARDS TRIANGLE-HEADED DASHED ARROWaUPWARDS TRIANGLE-HEADED DASHED ARR",
    "OWaRIGHTWARDS TRIANGLE-HEADED DASHED ARROWaDOWNWARDS TRIANGLE-HEADED DASHED ARROWaCLOCKWISE TRIANGLE-H",
    "EADED OPEN CIRCLE ARROWaANTICLOCKWISE TRIANGLE-HEADED OPEN CIRCLE ARROWaLEFTWARDS TRIANGLE-HEADED ARRO",
    "W TO BARaUPWARDS TRIANGLE-HEADED ARROW TO BARaRIGHTWARDS TRIANGLE-HEADED ARROW TO BARaDOWNWARDS TRIANG",
    "LE-HEADED ARROW TO BAR??aNORTH WEST TRIANGLE-HEADED ARROW TO BARgEAST TRIANGLE-HEADED ARROW TO BARaSOU",
    "TH EAST TRIANGLE-HEADED ARROW TO BARgWEST TRIANGLE-HEADED ARROW TO BARaLEFTWARDS TRIANGLE-HEADED ARROW",
    " WITH DOUBLE HORIZONTAL STROKEaUPWARDS TRIANGLE-HEADED ARROW WITH DOUBLE HORIZONTAL STROKEaRIGHTWARDS ",
    "TRIANGLE-HEADED ARROW WITH DOUBLE HORIZONTAL STROKEaDOWNWARDS TRIANGLE-HEADED ARROW WITH DOUBLE HORIZO",
    "NTAL STROKEaHORIZONTAL TAB KEYaVERTICAL TAB KEYaLEFTWARDS TRIANGLE-HEADED ARROW OVER RIGHTWARDS TRIANG",
    "LE-HEADED ARROWaUPWARDS TRIANGLE-HEADED ARROW LEFTWARDS OF DOWNWARDS TRIANGLE-HEADED ARROWaRIGHTWARDS ",
    "TRIANGLE-HEADED ARROW OVER LEFTWARDS TRIANGLE-HEADED ARROWaDOWNWARDS TRIANGLE-HEADED ARROW LEFTWARDS O",
    "F UPWARDS TRIANGLE-HEADED ARROWaLEFTWARDS TRIANGLE-HEADED PAIRED ARROWSaUPWARDS TRIANGLE-HEADED PAIRED",
    " ARROWSaRIGHTWARDS TRIANGLE-HEADED PAIRED ARROWSaDOWNWARDS TRIANGLE-HEADED PAIRED ARROWSaLEFTWARDS BLA",
    "CK CIRCLED WHITE ARROWaUPWARDS BLACK CIRCLED WHITE ARROWaRIGHTWARDS BLACK CIRCLED WHITE ARROWaDOWNWARD",
    "S BLACK CIRCLED WHITE ARROWaANTICLOCKWISE TRIANGLE-HEADED RIGHT U-SHAPED ARROWzfBOTTOM U-SHAPED ARROWz",
    "fLEFT U-SHAPED ARROWzfTOP U-SHAPED ARROWaRETURN LEFThRIGHTaNEWLINE LEFTiRIGHTaFOUR CORNER ARROWS CIRCL",
    "ING ANTICLOCKWISEaRIGHTWARDS BLACK ARROW?aSYMBOL FOR TYPE A ELECTRONICSaTHREE-D TOP-LIGHTED LEFTWARDS ",
    "EQUILATERAL ARROWHEADiRIGHT-LIGHTED UPWARDS EQUILATERAL ARROWHEADiTOP-LIGHTED RIGHTWARDS EQUILATERAL A",
    "RROWHEADiLEFT-LIGHTED DOWNWARDS EQUILATERAL ARROWHEADaBLACK LEFTWARDS EQUILATERAL ARROWHEADgUPWARDS EQ",
    "UILATERAL ARROWHEADgRIGHTWARDS EQUILATERAL ARROWHEADgDOWNWARDS EQUILATERAL ARROWHEADaDOWNWARDS TRIANGL",
    "E-HEADED ARROW WITH LONG TIP LEFTWARDSzvRIGHTWARDSaUPWARDS TRIANGLE-HEADED ARROW WITH LONG TIP LEFTWAR",
    "DSztRIGHTWARDSaLEFTWARDS TRIANGLE-HEADED ARROW WITH LONG TIP UPWARDSaRIGHTWARDS TRIANGLE-HEADED ARROW ",
    "WITH LONG TIP UPWARDSaLEFTWARDS TRIANGLE-HEADED ARROW WITH LONG TIP DOWNWARDSaRIGHTWARDS TRIANGLE-HEAD",
    "ED ARROW WITH LONG TIP DOWNWARDSaBLACK CURVED DOWNWARDS AND LEFTWARDS ARROWzcRIGHTWARDS ARROWnUPWARDS ",
    "AND LEFTWARDS ARROWzaRIGHTWARDS ARROWnLEFTWARDS AND UPWARDS ARROWnRIGHTWARDS AND UPWARDS ARROWnLEFTWAR",
    "DS AND DOWNWARDS ARROWnRIGHTWARDS AND DOWNWARDS ARROWaRIBBON ARROW DOWN LEFTsRIGHTnUP LEFTqRIGHTnLEFT ",
    "UPnRIGHT UPnLEFT DOWNnRIGHT DOWNaUPWARDS WHITE ARROW FROM BAR WITH HORIZONTAL BARc ARROWHEAD IN A RECT",
    "ANGLE BOXaOVERLAPPING WHITE SQUARESsAND BLACK SQUARESmBLACK SQUARESaBALLOT BOX WITH LIGHT XaCIRCLED Xi",
    "BOLD XaBLACK SQUARE CENTREDgDIAMOND CENTREDaTURNED BLACK PENTAGONaHORIZONTAL BLACK OCTAGONaBLACK OCTAG",
    "ONgMEDIUM UP-POINTING TRIANGLE CENTREDnDOWN-POINTING TRIANGLE CENTREDnLEFT-POINTING TRIANGLE CENTREDnR",
    "IGHT-POINTING TRIANGLE CENTREDaNEPTUNE FORM TWOaTOP HALF BLACK CIRCLEaBOTTOM HALF BLACK CIRCLEaLIGHT F",
    "OUR POINTED BLACK CUSPaROTATED LIGHT FOUR POINTED BLACK CUSPaWHITE FOUR POINTED CUSPaROTATED WHITE FOU",
    "R POINTED CUSPaSQUARE POSITION INDICATORaUNCERTAINTY SIGNaGROUP MARKaPLUTO FORM TWOmHREElFOURmIVEaTRAN",
    "SPLUTOaPROSERPINAaASTRAEAaHYGIEAaPHOLUSaNESSUSaWHITE MOON SELENAaBLACK DIAMOND ON CROSSaTRUE LIGHT MOO",
    "N ARTAaCUPIDOaHADESaZEUSaKRONOSaAPOLLONbDMETOSaVULCANUSaPOSEIDONaLEFT HALF BLACK STARaRIGHT HALF BLACK",
    " STARaSTAR WITH LEFT HALF BLACKkRIGHT HALF BLACKaLEFTWARDS TWO-HEADED ARROW WITH TRIANGLE ARROWHEADSaU",
    "PWARDS TWO-HEADED ARROW WITH TRIANGLE ARROWHEADSaRIGHTWARDS TWO-HEADED ARROW WITH TRIANGLE ARROWHEADSa",
    "DOWNWARDS TWO-HEADED ARROW WITH TRIANGLE ARROWHEADSaERIS FORM ONEkTWOaSEDNAaRUSSIAN ASTROLOGICAL SYMBO",
    "L VIGINTILEzdNOVILEzdQUINTILEzdBINOVILEzdSENTAGONzdTREDECILEaEQUALS SIGN WITH INFINITY BELOWaUNITED SY",
    "MBOLaSEPARATED SYMBOLaDOUBLED SYMBOLaPASSED SYMBOLaREVERSED RIGHT ANGLEaHELLSCHREIBER PAUSE SYMBOLaGLA",
    "GOLITIC CAPITAL LETTER AZUzbBUKYzbVEDEzbGLAGOLIzbDOBROzbYESTUzbZHIVETEzbDZELOzbZEMLJAzbIZHEzcNITIAL IZ",
    "HEzbIzbDJERVIzbKAKOzbLJUDIJEzbMYSLITEzbNASHIzbONUzbPOKOJIzbRITSIzbSLOVOzbTVRIDOzbUKUzbFRITUzbHERUzbOTU",
    "zbPEzbSHTAzbTSIzbCHRIVIzbSHAzbYERUzeIzcATIzbSPIDERY HAzbYUzbSMALL YUSzk WITH TAILzbYOzbIOTATED SMALL Y",
    "USzbBIG YUSzbIOTATED BIG YUSzbFITAzbIZHITSAzbSHTAPICzbTROKUTASTI AzbLATINATE MYSLITEzbCAUDATE CHRIVIlS",
    "MALL LETTER AZUyBUKYyVEDEyGLAGOLIyDOBROyYESTUyZHIVETEyDZELOyZEMLJAyIZHEzaNITIAL IZHEyIyDJERVIyKAKOyLJU",
    "DIJEyMYSLITEyNASHIyONUyPOKOJIyRITSIySLOVOyTVRIDOyUKUyFRITUyHERUyOTUyPEySHTAyTSIyCHRIVIySHAyYERUzcIzaAT",
    "IySPIDERY HAyYUySMALL YUSzi WITH TAILyYOyIOTATED SMALL YUSyBIG YUSyIOTATED BIG YUSyFITAyIZHITSAySHTAPI",
    "CyTROKUTASTI AyLATINATE MYSLITEyCAUDATE CHRIVIaLATIN CAPITAL LETTER L WITH DOUBLE BARgSMALL LETTER L W",
    "ITH DOUBLE BARgCAPITAL LETTER L WITH MIDDLE TILDEvP WITH STROKEvR WITH TAILgSMALL LETTER A WITH STROKE",
    "tT WITH DIAGONAL STROKEgCAPITAL LETTER H WITH DESCENDERgSMALL LETTER H WITH DESCENDERgCAPITAL LETTER K",
    " WITH DESCENDERgSMALL LETTER K WITH DESCENDERgCAPITAL LETTER Z WITH DESCENDERgSMALL LETTER Z WITH DESC",
    "ENDERgCAPITAL LETTER ALPHAvM WITH HOOKvTURNED AzeLPHAgSMALL LETTER V WITH RIGHT HOOKgCAPITAL LETTER W ",
    "WITH HOOKgSMALL LETTER W WITH HOOKtV WITH CURLgCAPITAL LETTER HALF HgSMALL LETTER HALF HtTAILLESS PHIt",
    "E WITH NOTCHtTURNED R WITH TAILtO WITH LOW RING INSIDEgLETTER SMALL CAPITAL TURNED EgSUBSCRIPT SMALL L",
    "ETTER JaMODIFIER LETTER CAPITAL VaLATIN CAPITAL LETTER S WITH SWASH TAILvZ WITH SWASH TAILaCOPTIC CAPI",
    "TAL LETTER ALFAhSMALL LETTER ALFAhCAPITAL LETTER VIDAhSMALL LETTER VIDAhCAPITAL LETTER GAMMAhSMALL LET",
    "TER GAMMAhCAPITAL LETTER DALDAhSMALL LETTER DALDAhCAPITAL LETTER EIEhSMALL LETTER EIEhCAPITAL LETTER S",
    "OUhSMALL LETTER SOUhCAPITAL LETTER ZATAhSMALL LETTER ZATAhCAPITAL LETTER HATEhSMALL LETTER HATEhCAPITA",
    "L LETTER THETHEhSMALL LETTER THETHEhCAPITAL LETTER IAUDAhSMALL LETTER IAUDAhCAPITAL LETTER KAPAhSMALL ",
    "LETTER KAPAhCAPITAL LETTER LAULAhSMALL LETTER LAULAhCAPITAL LETTER MIhSMALL LETTER MIhCAPITAL LETTER N",
    "IhSMALL LETTER NIhCAPITAL LETTER KSIhSMALL LETTER KSIhCAPITAL LETTER OhSMALL LETTER OhCAPITAL LETTER P",
    "IhSMALL LETTER PIhCAPITAL LETTER ROhSMALL LETTER ROhCAPITAL LETTER SIMAhSMALL LETTER SIMAhCAPITAL LETT",
    "ER TAUhSMALL LETTER TAUhCAPITAL LETTER UAhSMALL LETTER UAhCAPITAL LETTER FIhSMALL LETTER FIhCAPITAL LE",
    "TTER KHIhSMALL LETTER KHIhCAPITAL LETTER PSIhSMALL LETTER PSIhCAPITAL LETTER OOUhSMALL LETTER OOUhCAPI",
    "TAL LETTER DIALECT-P ALEFhSMALL LETTER DIALECT-P ALEFhCAPITAL LETTER OLD COPTIC AINhSMALL LETTER OLD C",
    "OPTIC AINhCAPITAL LETTER CRYPTOGRAMMIC EIEhSMALL LETTER CRYPTOGRAMMIC EIEhCAPITAL LETTER DIALECT-P KAP",
    "AhSMALL LETTER DIALECT-P KAPAhCAPITAL LETTER DIALECT-P NIhSMALL LETTER DIALECT-P NIhCAPITAL LETTER CRY",
    "PTOGRAMMIC NIhSMALL LETTER CRYPTOGRAMMIC NIhCAPITAL LETTER OLD COPTIC OOUhSMALL LETTER OLD COPTIC OOUh",
    "CAPITAL LETTER SAMPIhSMALL LETTER SAMPIhCAPITAL LETTER CROSSED SHEIhSMALL LETTER CROSSED SHEIhCAPITAL ",
    "LETTER OLD COPTIC SHEIhSMALL LETTER OLD COPTIC SHEIhCAPITAL LETTER OLD COPTIC ESHhSMALL LETTER OLD COP",
    "TIC ESHhCAPITAL LETTER AKHMIMIC KHEIhSMALL LETTER AKHMIMIC KHEIhCAPITAL LETTER DIALECT-P HORIhSMALL LE",
    "TTER DIALECT-P HORIhCAPITAL LETTER OLD COPTIC HORIhSMALL LETTER OLD COPTIC HORIhCAPITAL LETTER OLD COP",
    "TIC HAhSMALL LETTER OLD COPTIC HAhCAPITAL LETTER L-SHAPED HAhSMALL LETTER L-SHAPED HAhCAPITAL LETTER O",
    "LD COPTIC HEIhSMALL LETTER OLD COPTIC HEIhCAPITAL LETTER OLD COPTIC HAThSMALL LETTER OLD COPTIC HAThCA",
    "PITAL LETTER OLD COPTIC GANGIAhSMALL LETTER OLD COPTIC GANGIAhCAPITAL LETTER OLD COPTIC DJAhSMALL LETT",
    "ER OLD COPTIC DJAhCAPITAL LETTER OLD COPTIC SHIMAhSMALL LETTER OLD COPTIC SHIMAhCAPITAL LETTER OLD NUB",
    "IAN SHIMAhSMALL LETTER OLD NUBIAN SHIMAhCAPITAL LETTER OLD NUBIAN NGIhSMALL LETTER OLD NUBIAN NGIhCAPI",
    "TAL LETTER OLD NUBIAN NYIhSMALL LETTER OLD NUBIAN NYIhCAPITAL LETTER OLD NUBIAN WAUhSMALL LETTER OLD N",
    "UBIAN WAUiYMBOL KAIoMI ROoPI ROoSTAUROSoTAU ROoKHI ROoSHIMA SIMAhCAPITAL LETTER CRYPTOGRAMMIC SHEIhSMA",
    "LL LETTER CRYPTOGRAMMIC SHEIhCAPITAL LETTER CRYPTOGRAMMIC GANGIAhSMALL LETTER CRYPTOGRAMMIC GANGIAhCOM",
    "BINING NI ABOVErSPIRITUS ASPERzbLENISiAPITAL LETTER BOHAIRIC KHEIhSMALL LETTER BOHAIRIC KHEI?????hOLD ",
    "NUBIAN FULL STOPsDIRECT QUESTION MARKsINDIRECT QUESTION MARKsVERSE DIVIDERhFRACTION ONE HALFiULL STOPh",
    "MORPHOLOGICAL DIVIDERaGEORGIAN SMALL LETTER ANwBANwGANwDONwENwVINwZENwTANwINwKANwLASwMANwNARwONwPARwZH",
    "ARwRAEwSANwTARwUNwPHARwKHARwGHANwQARwSHINwCHINxANwJILwCILxHARwXANwJHANwHAExExIEwWEwHARxOE?wYN?????wAEN",
    "??aTIFINAGH LETTER YAsBtHsGtHHqBERBER ACADEMY YAJqYAJsDtHtDuHrEYrAFsKqTUAREG YAKqYAKHHsHqBERBER ACADEM",
    "Y YAHqTUAREG YAHqYAHHsAsKHqTUAREG YAKHqYAQqTUAREG YAQqYIrAZHqAHAGGAR YAZHqTUAREG YAZHqYALsMsNqTUAREG Y",
    "AGNzaNGqYAPrUrARtRsGHqTUAREG YAGHqAYER YAGHqYAStStHsTtHsCHsTTsVsWsYsZqTAWELLEMET YAZqYAZZrErO???????jM",
    "ODIFIER LETTER LABIALIZATION MARKjSEPARATOR MARK"]),
  (0x2D7F, ["aTIFINAGH CONSONANT JOINERaETHIOPIC SYLLABLE LOAsMOAsROAsSOAtHOAsBOAsTOAsCOAsNOAtYOAsGLOTTAL O",
    "AsZOAsDOAtDOAsJOAsTHOAsCHOAsPHOAtOAsGGWAvIvEEvE"]),
  (0x2DA0, ["aETHIOPIC SYLLABLE SSAuUuIuAAuEEuEuO?sCCAuUuIuAAuEEuEuO?sZZAuUuIuAAuEEuEuO?sCCHAvUvIvAAvEEvEvO",
    "?sQYAuUuIuAAuEEuEuO?sKYAuUuIuAAuEEuEuO?sXYAuUuIuAAuEEuEuO?sGYAuUuIuAAuEEuEuO?aCOMBINING CYRILLIC LETTE",
    "R BEzbVEzbGHEzbDEzbZHEzcEzbKAzbELzcMzcNzbOzbPEzbERzcSzbTEzbHAzbTSEzbCHEzbSHAzdCHAzbFITAzbES-TEzbAzbIEz",
    "bDJERVzbMONOGRAPH UKzbYATzcUzbIOTIFIED AzbLITTLE YUSzbBIG YUSzbIOTIFIED BIG YUSaRIGHT ANGLE SUBSTITUTI",
    "ON MARKERmDOTTED SUBSTITUTION MARKERaLEFT SUBSTITUTION BRACKETaRIGHT SUBSTITUTION BRACKETaLEFT DOTTED ",
    "SUBSTITUTION BRACKETaRIGHT DOTTED SUBSTITUTION BRACKETbAISED INTERPOLATION MARKERhDOTTED INTERPOLATION",
    " MARKERaDOTTED TRANSPOSITION MARKERaLEFT TRANSPOSITION BRACKETaRIGHT TRANSPOSITION BRACKETbAISED SQUAR",
    "EaLEFT RAISED OMISSION BRACKETaRIGHT RAISED OMISSION BRACKETaEDITORIAL CORONISaPARAGRAPHOSaFORKED PARA",
    "GRAPHOSaREVERSED FORKED PARAGRAPHOSaHYPODIASTOLEaDOTTED OBELOScWNWARDS ANCORAaUPWARDS ANCORAaDOTTED RI",
    "GHT-POINTING ANGLEcUBLE OBLIQUE HYPHENaINVERTED INTERROBANGaPALM BRANCHaHYPHEN WITH DIAERESISaTILDE WI",
    "TH RING ABOVEaLEFT LOW PARAPHRASE BRACKETaRIGHT LOW PARAPHRASE BRACKETaTILDE WITH DOT ABOVEpBELOWaLEFT",
    " VERTICAL BAR WITH QUILLaRIGHT VERTICAL BAR WITH QUILLaTOP LEFT HALF BRACKETeRIGHT HALF BRACKETaBOTTOM",
    " LEFT HALF BRACKEThRIGHT HALF BRACKETaLEFT SIDEWAYS U BRACKETaRIGHT SIDEWAYS U BRACKETaLEFT DOUBLE PAR",
    "ENTHESISaRIGHT DOUBLE PARENTHESISaTWO DOTS OVER ONE DOT PUNCTUATIONaONE DOT OVER TWO DOTS PUNCTUATIONa",
    "SQUARED FOUR DOT PUNCTUATIONaFIVE DOT MARKaREVERSED QUESTION MARKaVERTICAL TILDEaRING POINTaWORD SEPAR",
    "ATOR MIDDLE DOTaTURNED COMMAaRAISED DOThCOMMAaTURNED SEMICOLONaDAGGER WITH LEFT GUARDmRIGHT GUARDaTURN",
    "ED DAGGERbOP HALF SECTION SIGNbWO-EM DASHbHREE-EM DASHaSTENOGRAPHIC FULL STOPaVERTICAL SIX DOTSaWIGGLY",
    " VERTICAL LINEaCAPITULUMaDOUBLE HYPHENaREVERSED COMMAaDOUBLE LOW-REVERSED-9 QUOTATION MARKbASH WITH LE",
    "FT UPTURNbOUBLE SUSPENSION MARKaINVERTED LOW KAVYKAt WITH KAVYKA ABOVEaLOW KAVYKAk WITH DOTaDOUBLE STA",
    "CKED COMMAcTTED SOLIDUSaTRIPLE DAGGERaMEDIEVAL COMMAaPARAGRAPHUS MARKbUNCTUS ELEVATUS MARKaCORNISH VER",
    "SE DIVIDERbROSS PATTY WITH RIGHT CROSSBARrLEFT CROSSBARaTIRONIAN SIGN CAPITAL ETaMEDIEVAL EXCLAMATION ",
    "MARKjQUESTION MARKaLEFT SQUARE BRACKET WITH STROKEaRIGHT SQUARE BRACKET WITH STROKEaLEFT SQUARE BRACKE",
    "T WITH DOUBLE STROKEaRIGHT SQUARE BRACKET WITH DOUBLE STROKEaTOP HALF LEFT PARENTHESISjRIGHT PARENTHES",
    "ISaBOTTOM HALF LEFT PARENTHESISmRIGHT PARENTHESISaOBLIQUE HYPHEN"]),
  (0x2E80, ["aCJK RADICAL REPEATmCLIFFmSECOND ONEtTWOuHREEmPERSONmBOXmTABLEmKNIFE ONEsTWOmDIVINATIONmSEALnM",
    "ALL ONEsTWOmLAME ONErTWOsHREErFOURmSNAKEmTHREADmSNOUT ONEsTWOmHEART ONEsTWOnANDmRAP?mCHOKEmSUNmMOONmDE",
    "ATHmMOTHERmCIVILIANmWATER ONEsTWOmFIREmPAW ONEqTWOmSIMPLIFIED HALF TREE TRUNKmCOWmDOGmJADEmBOLT OF CLO",
    "THmEYEmSPIRIT ONEtTWOmBAMBOOmSILKmC-SIMPLIFIED SILKmNET ONEqTWOrHREEqFOURmMESHmSHEEPmRAMmEWEmOLDmBRUSH",
    " ONEsTWOmMEATnORTARmGRASS ONEsTWOtHREEmTIGERmCLOTHESmWEST ONErTWOmC-SIMPLIFIED SEEmSIMPLIFIED HORNmHOR",
    "NmC-SIMPLIFIED SPEECHzbHELLmFOOTmC-SIMPLIFIED CARTmSIMPLIFIED WALKmWALK ONErTWOmCITYn-SIMPLIFIED GOLDm",
    "LONG ONErTWOmC-SIMPLIFIED LONGzaGATEmMOUND ONEsTWOmRAINmBLUEmC-SIMPLIFIED TANNED LEATHERzaLEAFzaWINDza",
    "FLYmEAT ONEqTWOrHREEmC-SIMPLIFIED EATmHEADmC-SIMPLIFIED HORSEmBONEmGHOSTmC-SIMPLIFIED FISHzaBIRDzaSALT",
    "mSIMPLIFIED WHEATxYELLOWmC-SIMPLIFIED FROGmJ-SIMPLIFIED EVENmC-SIMPLIFIED EVENmJ-SIMPLIFIED TOOTHmC-SI",
    "MPLIFIED TOOTHmJ-SIMPLIFIED DRAGONmC-SIMPLIFIED DRAGONmTURTLEmJ-SIMPLIFIED TURTLEmC-SIMPLIFIED TURTLE"]),
  (0x2F00, ["aKANGXI RADICAL ONEpLINEpDOTpSLASHqECONDpHOOKpTWOpLIDpMANpLEGSpENTERqIGHTpDOWN BOXpCOVERpICEpT",
    "ABLEpOPEN BOXpKNIFEpPOWERpWRAPpSPOONpRIGHT OPEN BOXpHIDING ENCLOSUREpTENpDIVINATIONpSEALpCLIFFpPRIVATE",
    "pAGAINpMOUTHpENCLOSUREqARTHpSCHOLARpGOr SLOWLYpEVENINGpBIGpWOMANpCHILDpROOFpINCHpSMALLpLAMEpCORPSEpSPR",
    "OUTpMOUNTAINpRIVERpWORKpONESELFpTURBANpDRYpSHORT THREADpDOTTED CLIFFpLONG STRIDEpTWO HANDSpSHOOTpBOWpS",
    "NOUTpBRISTLEpSTEPpHEARTqALBERDpDOORpHANDpBRANCHpRAPpSCRIPTpDIPPERpAXEpSQUAREpNOTpSUNqAYpMOONpTREEpLACK",
    "pSTOPpDEATHpWEAPONpDO NOTpCOMPAREpFURpCLANpSTEAMpWATERpFIREpCLAWpFATHERpDOUBLE XpHALF TREE TRUNKpSLICE",
    "pFANGpCOWpDOGpPROFOUNDpJADEpMELONpTILEpSWEETpLIFEpUSEpFIELDpBOLT OF CLOTHpSICKNESSpDOTTED TENTpWHITEpS",
    "KINpDISHpEYEpSPEARpARROWpSTONEqPIRITpTRACKpGRAINpCAVEpSTANDpBAMBOOpRICEpSILKpJARpNETpSHEEPpFEATHERpOLD",
    "pANDpPLOWpEARpBRUSHpMEATqINISTERpSELFpARRIVEpMORTARpTONGUEpOPPOSEpBOATpSTOPPINGpCOLORpGRASSpTIGERpINSE",
    "CTpBLOODpWALK ENCLOSUREpCLOTHESpWESTpSEEpHORNpSPEECHpVALLEYpBEANpPIGpBADGERpSHELLpREDqUNpFOOTpBODYpCAR",
    "TpBITTERpMORNINGpWALKpCITYpWINEpDISTINGUISHpVILLAGEpGOLDpLONGpGATEpMOUNDpSLAVEqHORT TAILED BIRDpRAINpB",
    "LUEpWRONGpFACEpLEATHERpTANNED LEATHERpLEEKpSOUNDpLEAFpWINDpFLYpEATpHEADpFRAGRANTpHORSEpBONEpTALLpHAIRp",
    "FIGHTpSACRIFICIAL WINEpCAULDRONpGHOSTpFISHpBIRDpSALTpDEERpWHEATpHEMPpYELLOWpMILLETpBLACKpEMBROIDERYpFR",
    "OGpTRIPODpDRUMpRATpNOSEpEVENpTOOTHpDRAGONpTURTLEpFLUTE"]),
  (0x2FF0, ["aIDEOGRAPHIC DESCRIPTION CHARACTER LEFT TO RIGHTzjABOVE TO BELOWzjLEFT TO MIDDLE AND RIGHTzjAB",
    "OVE TO MIDDLE AND BELOWzjFULL SURROUNDzjSURROUND FROM ABOVEzxBELOWzxLEFTzxUPPER LEFTzzeRIGHTzxLOWER LE",
    "FTzjOVERLAID????mSPACEmCOMMAmFULL STOPaDITTO MARKaJAPANESE INDUSTRIAL STANDARD SYMBOLaIDEOGRAPHIC ITER",
    "ATION MARKmCLOSING MARKmNUMBER ZEROaLEFT ANGLE BRACKETaRIGHT ANGLE BRACKETaLEFT DOUBLE ANGLE BRACKETaR",
    "IGHT DOUBLE ANGLE BRACKETaLEFT CORNER BRACKETaRIGHT CORNER BRACKETaLEFT WHITE CORNER BRACKETaRIGHT WHI",
    "TE CORNER BRACKETaLEFT BLACK LENTICULAR BRACKETaRIGHT BLACK LENTICULAR BRACKETaPOSTAL MARKaGETA MARKaL",
    "EFT TORTOISE SHELL BRACKETaRIGHT TORTOISE SHELL BRACKETaLEFT WHITE LENTICULAR BRACKETaRIGHT WHITE LENT",
    "ICULAR BRACKETaLEFT WHITE TORTOISE SHELL BRACKETaRIGHT WHITE TORTOISE SHELL BRACKETaLEFT WHITE SQUARE ",
    "BRACKETaRIGHT WHITE SQUARE BRACKETaWAVE DASHaREVERSED DOUBLE PRIME QUOTATION MARKaDOUBLE PRIME QUOTATI",
    "ON MARKaLOW DOUBLE PRIME QUOTATION MARKaPOSTAL MARK FACEaHANGZHOU NUMERAL ONErTWOsHREErFOURsIVErSIXsEV",
    "ENrEIGHTrNINEaIDEOGRAPHIC LEVEL TONE MARKmRISING TONE MARKmDEPARTING TONE MARKmENTERING TONE MARKaHANG",
    "UL SINGLE DOT TONE MARKhDOUBLE DOT TONE MARKaWAVY DASHaVERTICAL KANA REPEAT MARKvWITH VOICED SOUND MAR",
    "KvMARK UPPER HALFvWITH VOICED SOUND MARK UPPER HALFvMARK LOWER HALFaCIRCLED POSTAL MARKaIDEOGRAPHIC TE",
    "LEGRAPH LINE FEED SEPARATOR SYMBOLaHANGZHOU NUMERAL TENsWENTYsHIRTYaVERTICAL IDEOGRAPHIC ITERATION MAR",
    "KaMASU MARKaPART ALTERNATION MARKaIDEOGRAPHIC VARIATION INDICATORmHALF FILL SPACE?aHIRAGANA LETTER SMA",
    "LL AqAqSMALL IqIqSMALL UqUqSMALL EqEqSMALL OqOqKAqGAqKIqGIqKUqGUqKEqGEqKOqGOqSAqZAqSIqZIqSUqZUqSEqZEqS",
    "OqZOqTAqDAqTIqDIqSMALL TUqTUqDUqTEqDEqTOqDOqNArIrUrErOqHAqBAqPAqHIqBIqPIqHUqBUqPUqHEqBEqPEqHOqBOqPOqMA",
    "rIrUrErOqSMALL YAqYAqSMALL YUqYUqSMALL YOqYOqRArIrUrErOqSMALL WAqWArIrErOqNqVUqSMALL KAxE??aCOMBINING ",
    "KATAKANA-HIRAGANA VOICED SOUND MARKzdSEMI-VOICED SOUND MARKaKATAKANA-HIRAGANA VOICED SOUND MARKsSEMI-V",
    "OICED SOUND MARKaHIRAGANA ITERATION MARKjVOICED ITERATION MARKjDIGRAPH YORIaKATAKANA-HIRAGANA DOUBLE H",
    "YPHENi LETTER SMALL AqAqSMALL IqIqSMALL UqUqSMALL EqEqSMALL OqOqKAqGAqKIqGIqKUqGUqKEqGEqKOqGOqSAqZAqSI",
    "qZIqSUqZUqSEqZEqSOqZOqTAqDAqTIqDIqSMALL TUqTUqDUqTEqDEqTOqDOqNArIrUrErOqHAqBAqPAqHIqBIqPIqHUqBUqPUqHEq",
    "BEqPEqHOqBOqPOqMArIrUrErOqSMALL YAqYAqSMALL YUqYUqSMALL YOqYOqRArIrUrErOqSMALL WAqWArIrErOqNqVUqSMALL ",
    "KAxEqVArIrErOjMIDDLE DOTi-HIRAGANA PROLONGED SOUND MARKi ITERATION MARKjVOICED ITERATION MARKjDIGRAPH ",
    "KOTO?????aBOPOMOFO LETTER BqPqMqFqDqTqNqLqGqKqHqJqQqXqZHqCHqSHqRqZqCqSqAqOqErHqAIqEIqAUqOUqANqENqANGqE",
    "NGrRqIqUqIUqVqNGqGNqIHqO WITH DOT ABOVEqNN?aHANGUL LETTER KIYEOKoSSANGKIYEOKoKIYEOK-SIOSoNIEUNt-CIEUCu",
    "HIEUHoTIKEUToSSANGTIKEUToRIEULt-KIYEOKuMIEUMuPIEUPuSIOSuTHIEUTHuPHIEUPHuHIEUHoMIEUMoPIEUPoSSANGPIEUPoP",
    "IEUP-SIOSoSIOSpSANGSIOSoIEUNGoCIEUCoSSANGCIEUCoCHIEUCHoKHIEUKHoTHIEUTHoPHIEUPHoHIEUHoApEoYAqEoEOoEoYEO",
    "pEoOoWAqEoOEoYOoUoWEOpEpIoYUoEUoYIoIhFILLERhLETTER SSANGNIEUNoNIEUN-TIKEUTuSIOSuPANSIOSoRIEUL-KIYEOK-S",
    "IOSuTIKEUTuPIEUP-SIOSvANSIOSuYEORINHIEUHoMIEUM-PIEUPuSIOSuPANSIOSoKAPYEOUNMIEUMoPIEUP-KIYEOKuTIKEUTuSI",
    "OS-KIYEOKzaTIKEUTuCIEUCuTHIEUTHoKAPYEOUNPIEUPwSSANGPIEUPoSIOS-KIYEOKtNIEUNtTIKEUTtPIEUPtCIEUCoPANSIOSo",
    "SSANGIEUNGoYESIEUNGw-SIOSxPANSIOSoKAPYEOUNPHIEUPHoSSANGHIEUHoYEORINHIEUHpO-YAtErIpU-YEOsErIoARAEAtE?aI",
    "DEOGRAPHIC ANNOTATION LINKING MARKxREVERSE MARKxONE MARKxTWO MARKyHREE MARKxFOUR MARKxTOP MARKxMIDDLE ",
    "MARKxBOTTOM MARKxFIRST MARKxSECOND MARKxTHIRD MARKxFOURTH MARKxHEAVEN MARKxEARTH MARKxMAN MARKaBOPOMOF",
    "O LETTER BUqZIqJIqGUqEErNNqOOrNNqIRqANNqINNqUNNqIMqNGGqAINNrUNNrMqOMrNGqINNNjFINAL LETTER PwTwKwHjLETT",
    "ER GHqLHqZYjFINAL LETTER GjLETTER GWqKWqOEqAHaCJK STROKE TlWGlXGlBXGlSWlHZZnGmPmZWGlSZWGlHZTnZPmPWGmZW",
    "nZZlNlHlSlPlSPlDlHZmGlSZmWZmTmGlPDmZlTNlSZZmWGlHXWGmZZZGlPGlQ"])]

end CharacterName

end Text

end CodeBehind
