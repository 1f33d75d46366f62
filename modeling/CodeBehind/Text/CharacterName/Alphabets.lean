import CodeBehind.Text.CharacterName.Block

/-!
# Character names: the alphabets

The names of the alphabets, abugidas and their marks, up to the first signs they share.

## Main definitions

* `alphabets`: The blocks.
-/

namespace CodeBehind

namespace Text

namespace CharacterName

/-- The blocks of the alphabets. -/
def alphabets : List Block := [
  (0x20, ["aSPACEaEXCLAMATION MARKaQUOTATION MARKaNUMBER SIGNaDOLLAR SIGNaPERCENT SIGNaAMPERSANDbPOSTROPH",
    "EaLEFT PARENTHESISaRIGHT PARENTHESISaASTERISKaPLUS SIGNaCOMMAaHYPHEN-MINUSaFULL STOPaSOLIDUSaDIGIT ZER",
    "OgONEgTWOhHREEgFOURhIVEgSIXhEVENgEIGHTgNINEaCOLONaSEMICOLONaLESS-THAN SIGNaEQUALS SIGNaGREATER-THAN SI",
    "GNaQUESTION MARKaCOMMERCIAL ATaLATIN CAPITAL LETTER AvBvCvDvEvFvGvHvIvJvKvLvMvNvOvPvQvRvSvTvUvVvWvXvYv",
    "ZbEFT SQUARE BRACKETaREVERSE SOLIDUSbIGHT SQUARE BRACKETaCIRCUMFLEX ACCENTaLOW LINEaGRAVE ACCENTaLATIN",
    " SMALL LETTER AtBtCtDtEtFtGtHtItJtKtLtMtNtOtPtQtRtStTtUtVtWtXtYtZbEFT CURLY BRACKETaVERTICAL LINEaRIGH",
    "T CURLY BRACKETaTILDE"]),
  (0xA0, ["aNO-BREAK SPACEaINVERTED EXCLAMATION MARKaCENT SIGNaPOUND SIGNaCURRENCY SIGNaYEN SIGNaBROKEN B",
    "ARaSECTION SIGNaDIAERESISaCOPY",
    "RIGHT SIGNaFEMININE ORDINAL INDICATORaLEFT-POINTING DOUBLE ANGLE QUOTATION MARKaNOT SIGNaSOFT HYPHENaR",
    "EGISTERED SIGNaMACRONaDEGREE SIGNaPLUS-MINUS SIGNaSUPERSCRIPT TWOnHREEaACUTE ACCENTaMICRO SIGNaPILCROW",
    " SIGNaMIDDLE DOTaCEDILLAaSUPERSCRIPT ONEaMASCULINE ORDINAL INDICATORaRIGHT-POINTING DOUBLE ANGLE QUOTA",
    "TION MARKaVULGAR FRACTION ONE QUARTERuHALFqTHREE QUARTERSaINVERTED QUESTION MARKaLATIN CAPITAL LETTER ",
    "A WITH GRAVEzdACUTEzdCIRCUMFLEXzdTILDEzdDIAERESISzdRING ABOVEwEvC WITH CEDILLAvE WITH GRAVEzdACUTEzdCI",
    "RCUMFLEXzdDIAERESISvI WITH GRAVEzdACUTEzdCIRCUMFLEXzdDIAERESISvETHvN WITH TILDEvO WITH GRAVEzdACUTEzdC",
    "IRCUMFLEXzdTILDEzdDIAERESISaMULTIPLICATION SIGNaLATIN CAPITAL LETTER O WITH STROKEvU WITH GRAVEzdACUTE",
    "zdCIRCUMFLEXzdDIAERESISvY WITH ACUTEvTHORNgSMALL LETTER SHARP StA WITH GRAVEzbACUTEzbCIRCUMFLEXzbTILDE",
    "zbDIAERESISzbRING ABOVEuEtC WITH CEDILLAtE WITH GRAVEzbACUTEzbCIRCUMFLEXzbDIAERESIStI WITH GRAVEzbACUT",
    "EzbCIRCUMFLEXzbDIAERESIStETHtN WITH TILDEtO WITH GRAVEzbACUTEzbCIRCUMFLEXzbTILDEzbDIAERESISaDIVISION S",
    "IGNaLATIN SMALL LETTER O WITH STROKEtU WITH GRAVEzbACUTEzbCIRCUMFLEXzbDIAERESIStY WITH ACUTEtTHORNtY W",
    "ITH DIAERESISgCAPITAL LETTER A WITH MACRONgSMALL LETTER A WITH MACRONgCAPITAL LETTER A WITH BREVEgSMAL",
    "L LETTER A WITH BREVEgCAPITAL LETTER A WITH OGONEKgSMALL LETTER A WITH OGONEKgCAPITAL LETTER C WITH AC",
    "UTEgSMALL LETTER C WITH ACUTEgCAPITAL LETTER C WITH CIRCUMFLEXgSMALL LETTER C WITH CIRCUMFLEXgCAPITAL ",
    "LETTER C WITH DOT ABOVEgSMALL LETTER C WITH DOT ABOVEgCAPITAL LETTER C WITH CARONgSMALL LETTER C WITH ",
    "CARONgCAPITAL LETTER D WITH CARONgSMALL LETTER D WITH CARONgCAPITAL LETTER D WITH STROKEgSMALL LETTER ",
    "D WITH STROKEgCAPITAL LETTER E WITH MACRONgSMALL LETTER E WITH MACRONgCAPITAL LETTER E WITH BREVEgSMAL",
    "L LETTER E WITH BREVEgCAPITAL LETTER E WITH DOT ABOVEgSMALL LETTER E WITH DOT ABOVEgCAPITAL LETTER E W",
    "ITH OGONEKgSMALL LETTER E WITH OGONEKgCAPITAL LETTER E WITH CARONgSMALL LETTER E WITH CARONgCAPITAL LE",
    "TTER G WITH CIRCUMFLEXgSMALL LETTER G WITH CIRCUMFLEXgCAPITAL LETTER G WITH BREVEgSMALL LETTER G WITH ",
    "BREVEgCAPITAL LETTER G WITH DOT ABOVEgSMALL LETTER G WITH DOT ABOVEgCAPITAL LETTER G WITH CEDILLAgSMAL",
    "L LETTER G WITH CEDILLAgCAPITAL LETTER H WITH CIRCUMFLEXgSMALL LETTER H WITH CIRCUMFLEXgCAPITAL LETTER",
    " H WITH STROKEgSMALL LETTER H WITH STROKEgCAPITAL LETTER I WITH TILDEgSMALL LETTER I WITH TILDEgCAPITA",
    "L LETTER I WITH MACRONgSMALL LETTER I WITH MACRONgCAPITAL LETTER I WITH BREVEgSMALL LETTER I WITH BREV",
    "EgCAPITAL LETTER I WITH OGONEKgSMALL LETTER I WITH OGONEKgCAPITAL LETTER I WITH DOT ABOVEgSMALL LETTER",
    " DOTLESS IgCAPITAL LIGATURE IJgSMALL LIGATURE IJgCAPITAL LETTER J WITH CIRCUMFLEXgSMALL LETTER J WITH ",
    "CIRCUMFLEXgCAPITAL LETTER K WITH CEDILLAgSMALL LETTER K WITH CEDILLAuRAgCAPITAL LETTER L WITH ACUTEgSM",
    "ALL LETTER L WITH ACUTEgCAPITAL LETTER L WITH CEDILLAgSMALL LETTER L WITH CEDILLAgCAPITAL LETTER L WIT",
    "H CARONgSMALL LETTER L WITH CARONgCAPITAL LETTER L WITH MIDDLE DOTgSMALL LETTER L WITH MIDDLE DOTgCAPI",
    "TAL LETTER L WITH STROKEgSMALL LETTER L WITH STROKEgCAPITAL LETTER N WITH ACUTEgSMALL LETTER N WITH AC",
    "UTEgCAPITAL LETTER N WITH CEDILLAgSMALL LETTER N WITH CEDILLAgCAPITAL LETTER N WITH CARONgSMALL LETTER",
    " N WITH CARONvPRECEDED BY APOSTROPHEgCAPITAL LETTER ENGgSMALL LETTER ENGgCAPITAL LETTER O WITH MACRONg",
    "SMALL LETTER O WITH MACRONgCAPITAL LETTER O WITH BREVEgSMALL LETTER O WITH BREVEgCAPITAL LETTER O WITH",
    " DOUBLE ACUTEgSMALL LETTER O WITH DOUBLE ACUTEgCAPITAL LIGATURE OEgSMALL LIGATURE OEgCAPITAL LETTER R ",
    "WITH ACUTEgSMALL LETTER R WITH ACUTEgCAPITAL LETTER R WITH CEDILLAgSMALL LETTER R WITH CEDILLAgCAPITAL",
    " LETTER R WITH CARONgSMALL LETTER R WITH CARONgCAPITAL LETTER S WITH ACUTEgSMALL LETTER S WITH ACUTEgC",
    "APITAL LETTER S WITH CIRCUMFLEXgSMALL LETTER S WITH CIRCUMFLEXgCAPITAL LETTER S WITH CEDILLAgSMALL LET",
    "TER S WITH CEDILLAgCAPITAL LETTER S WITH CARONgSMALL LETTER S WITH CARONgCAPITAL LETTER T WITH CEDILLA",
    "gSMALL LETTER T WITH CEDILLAgCAPITAL LETTER T WITH CARONgSMALL LETTER T WITH CARONgCAPITAL LETTER T WI",
    "TH STROKEgSMALL LETTER T WITH STROKEgCAPITAL LETTER U WITH TILDEgSMALL LETTER U WITH TILDEgCAPITAL LET",
    "TER U WITH MACRONgSMALL LETTER U WITH MACRONgCAPITAL LETTER U WITH BREVEgSMALL LETTER U WITH BREVEgCAP",
    "ITAL LETTER U WITH RING ABOVEgSMALL LETTER U WITH RING ABOVEgCAPITAL LETTER U WITH DOUBLE ACUTEgSMALL ",
    "LETTER U WITH DOUBLE ACUTEgCAPITAL LETTER U WITH OGONEKgSMALL LETTER U WITH OGONEKgCAPITAL LETTER W WI",
    "TH CIRCUMFLEXgSMALL LETTER W WITH CIRCUMFLEXgCAPITAL LETTER Y WITH CIRCUMFLEXgSMALL LETTER Y WITH CIRC",
    "UMFLEXgCAPITAL LETTER Y WITH DIAERESISvZ WITH ACUTEgSMALL LETTER Z WITH ACUTEgCAPITAL LETTER Z WITH DO",
    "T ABOVEgSMALL LETTER Z WITH DOT ABOVEgCAPITAL LETTER Z WITH CARONgSMALL LETTER Z WITH CARONtLONG StB W",
    "ITH STROKEgCAPITAL LETTER B WITH HOOKzdTOPBARgSMALL LETTER B WITH TOPBARgCAPITAL LETTER TONE SIXgSMALL",
    " LETTER TONE SIXgCAPITAL LETTER OPEN OvC WITH HOOKgSMALL LETTER C WITH HOOKgCAPITAL LETTER AFRICAN DvD",
    " WITH HOOKzdTOPBARgSMALL LETTER D WITH TOPBARtTURNED DELTAgCAPITAL LETTER REVERSED EvSCHWAvOPEN EvF WI",
    "TH HOOKgSMALL LETTER F WITH HOOKgCAPITAL LETTER G WITH HOOKwAMMAgSMALL LETTER HVgCAPITAL LETTER IOTAw ",
    "WITH STROKEvK WITH HOOKgSMALL LETTER K WITH HOOKtL WITH BARuAMBDA WITH STROKEgCAPITAL LETTER TURNED Mv",
    "N WITH LEFT HOOKgSMALL LETTER N WITH LONG RIGHT LEGgCAPITAL LETTER O WITH MIDDLE TILDEzdHORNgSMALL LET",
    "TER O WITH HORNgCAPITAL LETTER OIgSMALL LETTER OIgCAPITAL LETTER P WITH HOOKgSMALL LETTER P WITH HOOKg",
    "LETTER YRgCAPITAL LETTER TONE TWOgSMALL LETTER TONE TWOgCAPITAL LETTER ESHgLETTER REVERSED ESH LOOPgSM",
    "ALL LETTER T WITH PALATAL HOOKgCAPITAL LETTER T WITH HOOKgSMALL LETTER T WITH HOOKgCAPITAL LETTER T WI",
    "TH RETROFLEX HOOKvU WITH HORNgSMALL LETTER U WITH HORNgCAPITAL LETTER UPSILONvV WITH HOOKvY WITH HOOKg",
    "SMALL LETTER Y WITH HOOKgCAPITAL LETTER Z WITH STROKEgSMALL LETTER Z WITH STROKEgCAPITAL LETTER EZHy R",
    "EVERSEDgSMALL LETTER EZH REVERSEDxWITH TAILgLETTER TWO WITH STROKEgCAPITAL LETTER TONE FIVEgSMALL LETT",
    "ER TONE FIVEgLETTER INVERTED GLOTTAL STOP WITH STROKEnWYNNnDENTAL CLICKnLATERAL CLICKnALVEOLAR CLICKnR",
    "ETROFLEX CLICKgCAPITAL LETTER DZ WITH CARONw WITH SMALL LETTER Z WITH CARONgSMALL LETTER DZ WITH CARON",
    "gCAPITAL LETTER LJw WITH SMALL LETTER JgSMALL LETTER LJgCAPITAL LETTER NJw WITH SMALL LETTER JgSMALL L",
    "ETTER NJgCAPITAL LETTER A WITH CARONgSMALL LETTER A WITH CARONgCAPITAL LETTER I WITH CARONgSMALL LETTE",
    "R I WITH CARONgCAPITAL LETTER O WITH CARONgSMALL LETTER O WITH CARONgCAPITAL LETTER U WITH CARONgSMALL",
    " LETTER U WITH CARONgCAPITAL LETTER U WITH DIAERESIS AND MACRONgSMALL LETTER U WITH DIAERESIS AND MACR",
    "ONgCAPITAL LETTER U WITH DIAERESIS AND ACUTEgSMALL LETTER U WITH DIAERESIS AND ACUTEgCAPITAL LETTER U ",
    "WITH DIAERESIS AND CARONgSMALL LETTER U WITH DIAERESIS AND CARONgCAPITAL LETTER U WITH DIAERESIS AND G",
    "RAVEgSMALL LETTER U WITH DIAERESIS AND GRAVEtTURNED EgCAPITAL LETTER A WITH DIAERESIS AND MACRONgSMALL",
    " LETTER A WITH DIAERESIS AND MACRONgCAPITAL LETTER A WITH DOT ABOVE AND MACRONgSMALL LETTER A WITH DOT",
    " ABOVE AND MACRONgCAPITAL LETTER AE WITH MACRONgSMALL LETTER AE WITH MACRONgCAPITAL LETTER G WITH STRO",
    "KEgSMALL LETTER G WITH STROKEgCAPITAL LETTER G WITH CARONgSMALL LETTER G WITH CARONgCAPITAL LETTER K W",
    "ITH CARONgSMALL LETTER K WITH CARONgCAPITAL LETTER O WITH OGONEKgSMALL LETTER O WITH OGONEKgCAPITAL LE",
    "TTER O WITH OGONEK AND MACRONgSMALL LETTER O WITH OGONEK AND MACRONgCAPITAL LETTER EZH WITH CARONgSMAL",
    "L LETTER EZH WITH CARONtJ WITH CARONgCAPITAL LETTER DZw WITH SMALL LETTER ZgSMALL LETTER DZgCAPITAL LE",
    "TTER G WITH ACUTEgSMALL LETTER G WITH ACUTEgCAPITAL LETTER HWAIRvWYNNvN WITH GRAVEgSMALL LETTER N WITH",
    " GRAVEgCAPITAL LETTER A WITH RING ABOVE AND ACUTEgSMALL LETTER A WITH RING ABOVE AND ACUTEgCAPITAL LET",
    "TER AE WITH ACUTEgSMALL LETTER AE WITH ACUTEgCAPITAL LETTER O WITH STROKE AND ACUTEgSMALL LETTER O WIT",
    "H STROKE AND ACUTEgCAPITAL LETTER A WITH DOUBLE GRAVEgSMALL LETTER A WITH DOUBLE GRAVEgCAPITAL LETTER ",
    "A WITH INVERTED BREVEgSMALL LETTER A WITH INVERTED BREVEgCAPITAL LETTER E WITH DOUBLE GRAVEgSMALL LETT",
    "ER E WITH DOUBLE GRAVEgCAPITAL LETTER E WITH INVERTED BREVEgSMALL LETTER E WITH INVERTED BREVEgCAPITAL",
    " LETTER I WITH DOUBLE GRAVEgSMALL LETTER I WITH DOUBLE GRAVEgCAPITAL LETTER I WITH INVERTED BREVEgSMAL",
    "L LETTER I WITH INVERTED BREVEgCAPITAL LETTER O WITH DOUBLE GRAVEgSMALL LETTER O WITH DOUBLE GRAVEgCAP",
    "ITAL LETTER O WITH INVERTED BREVEgSMALL LETTER O WITH INVERTED BREVEgCAPITAL LETTER R WITH DOUBLE GRAV",
    "EgSMALL LETTER R WITH DOUBLE GRAVEgCAPITAL LETTER R WITH INVERTED BREVEgSMALL LETTER R WITH INVERTED B",
    "REVEgCAPITAL LETTER U WITH DOUBLE GRAVEgSMALL LETTER U WITH DOUBLE GRAVEgCAPITAL LETTER U WITH INVERTE",
    "D BREVEgSMALL LETTER U WITH INVERTED BREVEgCAPITAL LETTER S WITH COMMA BELOWgSMALL LETTER S WITH COMMA",
    " BELOWgCAPITAL LETTER T WITH COMMA BELOWgSMALL LETTER T WITH COMMA BELOWgCAPITAL LETTER YOGHgSMALL LET",
    "TER YOGHgCAPITAL LETTER H WITH CARONgSMALL LETTER H WITH CARONgCAPITAL LETTER N WITH LONG RIGHT LEGgSM",
    "ALL LETTER D WITH CURLgCAPITAL LETTER OUgSMALL LETTER OUgCAPITAL LETTER Z WITH HOOKgSMALL LETTER Z WIT",
    "H HOOKgCAPITAL LETTER A WITH DOT ABOVEgSMALL LETTER A WITH DOT ABOVEgCAPITAL LETTER E WITH CEDILLAgSMA",
    "LL LETTER E WITH CEDILLAgCAPITAL LETTER O WITH DIAERESIS AND MACRONgSMALL LETTER O WITH DIAERESIS AND ",
    "MACRONgCAPITAL LETTER O WITH TILDE AND MACRONgSMALL LETTER O WITH TILDE AND MACRONgCAPITAL LETTER O WI",
    "TH DOT ABOVEgSMALL LETTER O WITH DOT ABOVEgCAPITAL LETTER O WITH DOT ABOVE AND MACRONgSMALL LETTER O W",
    "ITH DOT ABOVE AND MACRONgCAPITAL LETTER Y WITH MACRONgSMALL LETTER Y WITH MACRONtL WITH CURLtN WITH CU",
    "RLtT WITH CURLtDOTLESS JuB DIGRAPHtQP DIGRAPHgCAPITAL LETTER A WITH STROKEvC WITH STROKEgSMALL LETTER ",
    "C WITH STROKEgCAPITAL LETTER L WITH BARvT WITH DIAGONAL STROKEgSMALL LETTER S WITH SWASH TAILtZ WITH S",
    "WASH TAILgCAPITAL LETTER GLOTTAL STOPgSMALL LETTER GLOTTAL STOPgCAPITAL LETTER B WITH STROKEvU BARvTUR",
    "NED VvE WITH STROKEgSMALL LETTER E WITH STROKEgCAPITAL LETTER J WITH STROKEgSMALL LETTER J WITH STROKE",
    "gCAPITAL LETTER SMALL Q WITH HOOK TAILgSMALL LETTER Q WITH HOOK TAILgCAPITAL LETTER R WITH STROKEgSMAL",
    "L LETTER R WITH STROKEgCAPITAL LETTER Y WITH STROKEgSMALL LETTER Y WITH STROKEtTURNED AtALPHAtTURNED A",
    "LPHAtB WITH HOOKtOPEN OtC WITH CURLtD WITH TAILzbHOOKtREVERSED EtSCHWAy WITH HOOKtOPEN EtREVERSED OPEN",
    " Ezj WITH HOOKtCLOSED REVERSED OPEN EtDOTLESS J WITH STROKEtG WITH HOOKtSCRIPT GgLETTER SMALL CAPITAL ",
    "GgSMALL LETTER GAMMAtRAMS HORNtTURNED HtH WITH HOOKuENG WITH HOOKtI WITH STROKEuOTAgLETTER SMALL CAPIT",
    "AL IgSMALL LETTER L WITH MIDDLE TILDEzbBELTzbRETROFLEX HOOKuEZHtTURNED Mzc WITH LONG LEGtM WITH HOOKtN",
    " WITH LEFT HOOKzbRETROFLEX HOOKgLETTER SMALL CAPITAL NgSMALL LETTER BARRED OgLETTER SMALL CAPITAL OEgS",
    "MALL LETTER CLOSED OMEGAtPHItTURNED Rzc WITH LONG LEGziHOOKtR WITH LONG LEGzbTAILzbFISHHOOKuEVERSED R ",
    "WITH FISHHOOKgLETTER SMALL CAPITAL RzcINVERTED RgSMALL LETTER S WITH HOOKtESHtDOTLESS J WITH STROKE AN",
    "D HOOKtSQUAT REVERSED ESHtESH WITH CURLtTURNED Tu WITH RETROFLEX HOOKtU BARuPSILONtV WITH HOOKtTURNED ",
    "VzbWzbYgLETTER SMALL CAPITAL YgSMALL LETTER Z WITH RETROFLEX HOOKzbCURLtEZHw WITH CURLgLETTER GLOTTAL ",
    "STOPnPHARYNGEAL VOICED FRICATIVEnINVERTED GLOTTAL STOPnSTRETCHED CnBILABIAL CLICKnSMALL CAPITAL BgSMAL",
    "L LETTER CLOSED OPEN EgLETTER SMALL CAPITAL G WITH HOOKzcHgSMALL LETTER J WITH CROSSED-TAILtTURNED KgL",
    "ETTER SMALL CAPITAL LgSMALL LETTER Q WITH HOOKgLETTER GLOTTAL STOP WITH STROKEnREVERSED GLOTTAL STOP W",
    "ITH STROKEgSMALL LETTER DZ DIGRAPHuEZH DIGRAPHuZ DIGRAPH WITH CURLtTS DIGRAPHuESH DIGRAPHuC DIGRAPH WI",
    "TH CURLtFENG DIGRAPHtLS DIGRAPHuZ DIGRAPHgLETTER BILABIAL PERCUSSIVEpDENTAL PERCUSSIVEgSMALL LETTER TU",
    "RNED H WITH FISHHOOKzq AND TAILaMODIFIER LETTER SMALL Hx WITH HOOKwJwRwTURNED Rzf WITH HOOKwCAPITAL IN",
    "VERTED RwWwYqPRIMEqDOUBLE PRIMEqTURNED COMMAqAPOSTROPHEqREVERSED COMMArIGHT HALF RINGqLEFT HALF RINGqG",
    "LOTTAL STOPqREVERSED GLOTTAL STOPqLEFT ARROWHEADqRIGHT ARROWHEADqUP ARROWHEADqDOWN ARROWHEADqCIRCUMFLE",
    "X ACCENTaCARONaMODIFIER LETTER VERTICAL LINEqMACRONqACUTE ACCENTqGRAVE ACCENTqLOW VERTICAL LINEuMACRON",
    "uGRAVE ACCENTuACUTE ACCENTqTRIANGULAR COLONqHALF TRIANGULAR COLONqCENTRED RIGHT HALF RINGyLEFT HALF RI",
    "NGqUP TACKqDOWN TACKqPLUS SIGNqMINUS SIGNaBREVEaDOT ABOVEaRING ABOVEaOGONEKaSMALL TILDEaDOUBLE ACUTE A",
    "CCENTaMODIFIER LETTER RHOTIC HOOKqCROSS ACCENTqSMALL GAMMAwLwSwXwREVERSED GLOTTAL STOPqEXTRA-HIGH TONE",
    " BARqHIGH TONE BARqMID TONE BARqLOW TONE BARqEXTRA-LOW TONE BARqYIN DEPARTING TONE MARKrANG DEPARTING ",
    "TONE MARKqVOICINGqUNASPIRATEDqDOUBLE APOSTROPHEqLOW DOWN ARROWHEADuUP ARROWHEADuLEFT ARROWHEADuRIGHT A",
    "RROWHEADwNGqMIDDLE GRAVE ACCENTxDOUBLE GRAVE ACCENTzfACUTE ACCENTqLOW TILDEqRAISED COLONqBEGIN HIGH TO",
    "NEqEND HIGH TONEqBEGIN LOW TONEqEND LOW TONEqSHELFqOPEN SHELFqLOW LEFT ARROWaCOMBINING GRAVE ACCENTkAC",
    "UTE ACCENTkCIRCUMFLEX ACCENTkTILDEkMACRONkOVERLINEkBREVEkDOT ABOVElIAERESISkHOOK ABOVEkRING ABOVEkDOUB",
    "LE ACUTE ACCENTkCARONkVERTICAL LINE ABOVEkDOUBLE VERTICAL LINE ABOVErGRAVE ACCENTkCANDRABINDUkINVERTED",
    " BREVEkTURNED COMMA ABOVEkCOMMA ABOVEkREVERSED COMMA ABOVEkCOMMA ABOVE RIGHTkGRAVE ACCENT BELOWkACUTE ",
    "ACCENT BELOWkLEFT TACK BELOWkRIGHT TACK BELOWkLEFT ANGLE ABOVEkHORNkLEFT HALF RING BELOWkUP TACK BELOW",
    "kDOWN TACK BELOWkPLUS SIGN BELOWkMINUS SIGN BELOWkPALATALIZED HOOK BELOWkRETROFLEX HOOK BELOWkDOT BELO",
    "WlIAERESIS BELOWkRING BELOWkCOMMA BELOWlEDILLAkOGONEKkVERTICAL LINE BELOWkBRIDGE BELOWkINVERTED DOUBLE",
    " ARCH BELOWkCARON BELOWlIRCUMFLEX ACCENT BELOWkBREVE BELOWkINVERTED BREVE BELOWkTILDE BELOWkMACRON BEL",
    "OWkLOW LINEkDOUBLE LOW LINEkTILDE OVERLAYkSHORT STROKE OVERLAYkLONG STROKE OVERLAYkSHORT SOLIDUS OVERL",
    "AYkLONG SOLIDUS OVERLAYkRIGHT HALF RING BELOWkINVERTED BRIDGE BELOWkSQUARE BELOWlEAGULL BELOWkX ABOVEk",
    "VERTICAL TILDEkDOUBLE OVERLINEkGRAVE TONE MARKkACUTE TONE MARKkGREEK PERISPOMENIqKORONISqDIALYTIKA TON",
    "OSqYPOGEGRAMMENIkBRIDGE ABOVEkEQUALS SIGN BELOWkDOUBLE VERTICAL LINE BELOWkLEFT ANGLE BELOWkNOT TILDE ",
    "ABOVEkHOMOTHETIC ABOVEkALMOST EQUAL TO ABOVEkLEFT RIGHT ARROW BELOWkUPWARDS ARROW BELOWkGRAPHEME JOINE",
    "RkRIGHT ARROWHEAD ABOVEkLEFT HALF RING ABOVEkFERMATAkX BELOWkLEFT ARROWHEAD BELOWkRIGHT ARROWHEAD BELO",
    "WzbAND UP ARROWHEAD BELOWqHALF RING ABOVEkDOT ABOVE RIGHTkASTERISK BELOWkDOUBLE RING BELOWkZIGZAG ABOV",
    "EkDOUBLE BREVE BELOWvErMACRONx BELOWrTILDErINVERTED BREVErRIGHTWARDS ARROW BELOWkLATIN SMALL LETTER Az",
    "eEzeIzeOzeUzeCzeDzeHzeMzeRzeTzeVzeXaGREEK CAPITAL LETTER HETAgSMALL LETTER HETAgCAPITAL LETTER ARCHAIC",
    " SAMPIgSMALL LETTER ARCHAIC SAMPIgNUMERAL SIGNgLOWER NUMERAL SIGNgCAPITAL LETTER PAMPHYLIAN DIGAMMAgSM",
    "ALL LETTER PAMPHYLIAN DIGAMMA??gYPOGEGRAMMENIgSMALL REVERSED LUNATE SIGMA SYMBOLmDOTTED LUNATE SIGMA S",
    "YMBOLmREVERSED DOTTED LUNATE SIGMA SYMBOLgQUESTION MARKgCAPITAL LETTER YOT????gTONOSgDIALYTIKA TONOSgC",
    "APITAL LETTER ALPHA WITH TONOSgANO TELEIAgCAPITAL LETTER EPSILON WITH TONOSwTA WITH TONOSvIOTA WITH TO",
    "NOS?vOMICRON WITH TONOS?vUPSILON WITH TONOSvOMEGA WITH TONOSgSMALL LETTER IOTA WITH DIALYTIKA AND TONO",
    "SgCAPITAL LETTER ALPHAvBETAvGAMMAvDELTAvEPSILONvZETAvETAvTHETAvIOTAvKAPPAvLAMDAvMUvNUvXIvOMICRONvPIvRH",
    "O?vSIGMAvTAUvUPSILONvPHIvCHIvPSIvOMEGAvIOTA WITH DIALYTIKAvUPSILON WITH DIALYTIKAgSMALL LETTER ALPHA W",
    "ITH TONOStEPSILON WITH TONOSuTA WITH TONOStIOTA WITH TONOStUPSILON WITH DIALYTIKA AND TONOStALPHAtBETA",
    "tGAMMAtDELTAtEPSILONtZETAtETAtTHETAtIOTAtKAPPAtLAMDAtMUtNUtXItOMICRONtPItRHOtFINAL SIGMAtSIGMAtTAUtUPS",
    "ILONtPHItCHItPSItOMEGAtIOTA WITH DIALYTIKAtUPSILON WITH DIALYTIKAtOMICRON WITH TONOStUPSILON WITH TONO",
    "StOMEGA WITH TONOSgCAPITAL KAI SYMBOLgBETA SYMBOLgTHETA SYMBOLgUPSILON WITH HOOK SYMBOLtACUTE AND HOOK",
    " SYMBOLtDIAERESIS AND HOOK SYMBOLgPHI SYMBOLhI SYMBOLgKAI SYMBOLgLETTER ARCHAIC KOPPAgSMALL LETTER ARC",
    "HAIC KOPPAgLETTER STIGMAgSMALL LETTER STIGMAgLETTER DIGAMMAgSMALL LETTER DIGAMMAgLETTER KOPPAgSMALL LE",
    "TTER KOPPAgLETTER SAMPIgSMALL LETTER SAMPIaCOPTIC CAPITAL LETTER SHEIhSMALL LETTER SHEIhCAPITAL LETTER",
    " FEIhSMALL LETTER FEIhCAPITAL LETTER KHEIhSMALL LETTER KHEIhCAPITAL LETTER HORIhSMALL LETTER HORIhCAPI",
    "TAL LETTER GANGIAhSMALL LETTER GANGIAhCAPITAL LETTER SHIMAhSMALL LETTER SHIMAhCAPITAL LETTER DEIhSMALL",
    " LETTER DEIaGREEK KAPPA SYMBOLgRHO SYMBOLgLUNATE SIGMA SYMBOLhETTER YOTgCAPITAL THETA SYMBOLgLUNATE EP",
    "SILON SYMBOLgREVERSED LUNATE EPSILON SYMBOLgCAPITAL LETTER SHOgSMALL LETTER SHOgCAPITAL LUNATE SIGMA S",
    "YMBOLpETTER SANgSMALL LETTER SANgRHO WITH STROKE SYMBOLgCAPITAL REVERSED LUNATE SIGMA SYMBOLoDOTTED LU",
    "NATE SIGMA SYMBOLoREVERSED DOTTED LUNATE SIGMA SYMBOLaCYRILLIC CAPITAL LETTER IE WITH GRAVEzaOyDJEyGJE",
    "yUKRAINIAN IEyDZEyBYELORUSSIAN-UKRAINIAN IyYIyJEyLJEyNJEyTSHEyKJEyI WITH GRAVEySHORT UyDZHEyAyBEyVEyGH",
    "EyDEyIEyZHEzaEyIySHORT IyKAyELzaMzaNyOyPEyERzaSyTEyUyEFyHAyTSEyCHEySHAzbCHAyHARD SIGNyYERUySOFT SIGNyE",
    "yYUzaAjSMALL LETTER AwBEwVEwGHEwDEwIEwZHExEwIwSHORT IwKAwELxMxNwOwPEwERxSwTEwUwEFwHAwTSEwCHEwSHAyCHAwH",
    "ARD SIGNwYERUwSOFT SIGNwEwYUxAwIE WITH GRAVExOwDJEwGJEwUKRAINIAN IEwDZEwBYELORUSSIAN-UKRAINIAN IwYIwJE",
    "wLJEwNJEwTSHEwKJEwI WITH GRAVEwSHORT UwDZHEjCAPITAL LETTER OMEGAjSMALL LETTER OMEGAjCAPITAL LETTER YAT",
    "jSMALL LETTER YATjCAPITAL LETTER IOTIFIED EjSMALL LETTER IOTIFIED EjCAPITAL LETTER LITTLE YUSjSMALL LE",
    "TTER LITTLE YUSjCAPITAL LETTER IOTIFIED LITTLE YUSjSMALL LETTER IOTIFIED LITTLE YUSjCAPITAL LETTER BIG",
    " YUSjSMALL LETTER BIG YUSjCAPITAL LETTER IOTIFIED BIG YUSjSMALL LETTER IOTIFIED BIG YUSjCAPITAL LETTER",
    " KSIjSMALL LETTER KSIjCAPITAL LETTER PSIjSMALL LETTER PSIjCAPITAL LETTER FITAjSMALL LETTER FITAjCAPITA",
    "L LETTER IZHITSAjSMALL LETTER IZHITSAjCAPITAL LETTER IZHITSA WITH DOUBLE GRAVE ACCENTjSMALL LETTER IZH",
    "ITSA WITH DOUBLE GRAVE ACCENTjCAPITAL LETTER UKjSMALL LETTER UKjCAPITAL LETTER ROUND OMEGAjSMALL LETTE",
    "R ROUND OMEGAjCAPITAL LETTER OMEGA WITH TITLOjSMALL LETTER OMEGA WITH TITLOjCAPITAL LETTER OTjSMALL LE",
    "TTER OTjCAPITAL LETTER KOPPAjSMALL LETTER KOPPAjTHOUSANDS SIGNbOMBINING CYRILLIC TITLOtPALATALIZATIONt",
    "DASIA PNEUMATAtPSILI PNEUMATAuOKRYTIEtHUNDRED THOUSANDS SIGNtMILLIONS SIGNbYRILLIC CAPITAL LETTER SHOR",
    "T I WITH TAILjSMALL LETTER SHORT I WITH TAILjCAPITAL LETTER SEMISOFT SIGNjSMALL LETTER SEMISOFT SIGNjC",
    "APITAL LETTER ER WITH TICKjSMALL LETTER ER WITH TICKjCAPITAL LETTER GHE WITH UPTURNjSMALL LETTER GHE W",
    "ITH UPTURNjCAPITAL LETTER GHE WITH STROKEjSMALL LETTER GHE WITH STROKEjCAPITAL LETTER GHE WITH MIDDLE ",
    "HOOKjSMALL LETTER GHE WITH MIDDLE HOOKjCAPITAL LETTER ZHE WITH DESCENDERjSMALL LETTER ZHE WITH DESCEND",
    "ERjCAPITAL LETTER ZE WITH DESCENDERjSMALL LETTER ZE WITH DESCENDERjCAPITAL LETTER KA WITH DESCENDERjSM",
    "ALL LETTER KA WITH DESCENDERjCAPITAL LETTER KA WITH VERTICAL STROKEjSMALL LETTER KA WITH VERTICAL STRO",
    "KEjCAPITAL LETTER KA WITH STROKEjSMALL LETTER KA WITH STROKEjCAPITAL LETTER BASHKIR KAjSMALL LETTER BA",
    "SHKIR KAjCAPITAL LETTER EN WITH DESCENDERjSMALL LETTER EN WITH DESCENDERjCAPITAL LIGATURE EN GHEjSMALL",
    " LIGATURE EN GHEjCAPITAL LETTER PE WITH MIDDLE HOOKjSMALL LETTER PE WITH MIDDLE HOOKjCAPITAL LETTER AB",
    "KHASIAN HAjSMALL LETTER ABKHASIAN HAjCAPITAL LETTER ES WITH DESCENDERjSMALL LETTER ES WITH DESCENDERjC",
    "APITAL LETTER TE WITH DESCENDERjSMALL LETTER TE WITH DESCENDERjCAPITAL LETTER STRAIGHT UjSMALL LETTER ",
    "STRAIGHT UjCAPITAL LETTER STRAIGHT U WITH STROKEjSMALL LETTER STRAIGHT U WITH STROKEjCAPITAL LETTER HA",
    " WITH DESCENDERjSMALL LETTER HA WITH DESCENDERjCAPITAL LIGATURE TE TSEjSMALL LIGATURE TE TSEjCAPITAL L",
    "ETTER CHE WITH DESCENDERjSMALL LETTER CHE WITH DESCENDERjCAPITAL LETTER CHE WITH VERTICAL STROKEjSMALL",
    " LETTER CHE WITH VERTICAL STROKEjCAPITAL LETTER SHHAjSMALL LETTER SHHAjCAPITAL LETTER ABKHASIAN CHEjSM",
    "ALL LETTER ABKHASIAN CHEjCAPITAL LETTER ABKHASIAN CHE WITH DESCENDERjSMALL LETTER ABKHASIAN CHE WITH D",
    "ESCENDERjLETTER PALOCHKAjCAPITAL LETTER ZHE WITH BREVEjSMALL LETTER ZHE WITH BREVEjCAPITAL LETTER KA W",
    "ITH HOOKjSMALL LETTER KA WITH HOOKjCAPITAL LETTER EL WITH TAILjSMALL LETTER EL WITH TAILjCAPITAL LETTE",
    "R EN WITH HOOKjSMALL LETTER EN WITH HOOKjCAPITAL LETTER EN WITH TAILjSMALL LETTER EN WITH TAILjCAPITAL",
    " LETTER KHAKASSIAN CHEjSMALL LETTER KHAKASSIAN CHEjCAPITAL LETTER EM WITH TAILjSMALL LETTER EM WITH TA",
    "ILwPALOCHKAjCAPITAL LETTER A WITH BREVEjSMALL LETTER A WITH BREVEjCAPITAL LETTER A WITH DIAERESISjSMAL",
    "L LETTER A WITH DIAERESISjCAPITAL LIGATURE A IEjSMALL LIGATURE A IEjCAPITAL LETTER IE WITH BREVEjSMALL",
    " LETTER IE WITH BREVEjCAPITAL LETTER SCHWAjSMALL LETTER SCHWAjCAPITAL LETTER SCHWA WITH DIAERESISjSMAL",
    "L LETTER SCHWA WITH DIAERESISjCAPITAL LETTER ZHE WITH DIAERESISjSMALL LETTER ZHE WITH DIAERESISjCAPITA",
    "L LETTER ZE WITH DIAERESISjSMALL LETTER ZE WITH DIAERESISjCAPITAL LETTER ABKHASIAN DZEjSMALL LETTER AB",
    "KHASIAN DZEjCAPITAL LETTER I WITH MACRONjSMALL LETTER I WITH MACRONjCAPITAL LETTER I WITH DIAERESISjSM",
    "ALL LETTER I WITH DIAERESISjCAPITAL LETTER O WITH DIAERESISjSMALL LETTER O WITH DIAERESISjCAPITAL LETT",
    "ER BARRED OjSMALL LETTER BARRED OjCAPITAL LETTER BARRED O WITH DIAERESISjSMALL LETTER BARRED O WITH DI",
    "AERESISjCAPITAL LETTER E WITH DIAERESISjSMALL LETTER E WITH DIAERESISjCAPITAL LETTER U WITH MACRONjSMA",
    "LL LETTER U WITH MACRONjCAPITAL LETTER U WITH DIAERESISjSMALL LETTER U WITH DIAERESISjCAPITAL LETTER U",
    " WITH DOUBLE ACUTEjSMALL LETTER U WITH DOUBLE ACUTEjCAPITAL LETTER CHE WITH DIAERESISjSMALL LETTER CHE",
    " WITH DIAERESISjCAPITAL LETTER GHE WITH DESCENDERjSMALL LETTER GHE WITH DESCENDERjCAPITAL LETTER YERU ",
    "WITH DIAERESISjSMALL LETTER YERU WITH DIAERESISjCAPITAL LETTER GHE WITH STROKE AND HOOKjSMALL LETTER G",
    "HE WITH STROKE AND HOOKjCAPITAL LETTER HA WITH HOOKjSMALL LETTER HA WITH HOOKjCAPITAL LETTER HA WITH S",
    "TROKEjSMALL LETTER HA WITH STROKEjCAPITAL LETTER KOMI DEjSMALL LETTER KOMI DEjCAPITAL LETTER KOMI DJEj",
    "SMALL LETTER KOMI DJEjCAPITAL LETTER KOMI ZJEjSMALL LETTER KOMI ZJEjCAPITAL LETTER KOMI DZJEjSMALL LET",
    "TER KOMI DZJEjCAPITAL LETTER KOMI LJEjSMALL LETTER KOMI LJEjCAPITAL LETTER KOMI NJEjSMALL LETTER KOMI ",
    "NJEjCAPITAL LETTER KOMI SJEjSMALL LETTER KOMI SJEjCAPITAL LETTER KOMI TJEjSMALL LETTER KOMI TJEjCAPITA",
    "L LETTER REVERSED ZEjSMALL LETTER REVERSED ZEjCAPITAL LETTER EL WITH HOOKjSMALL LETTER EL WITH HOOKjCA",
    "PITAL LETTER LHAjSMALL LETTER LHAjCAPITAL LETTER RHAjSMALL LETTER RHAjCAPITAL LETTER YAEjSMALL LETTER ",
    "YAEjCAPITAL LETTER QAjSMALL LETTER QAjCAPITAL LETTER WEjSMALL LETTER WEjCAPITAL LETTER ALEUT KAjSMALL ",
    "LETTER ALEUT KAjCAPITAL LETTER EL WITH MIDDLE HOOKjSMALL LETTER EL WITH MIDDLE HOOKjCAPITAL LETTER EN ",
    "WITH MIDDLE HOOKjSMALL LETTER EN WITH MIDDLE HOOKjCAPITAL LETTER PE WITH DESCENDERjSMALL LETTER PE WIT",
    "H DESCENDERjCAPITAL LETTER SHHA WITH DESCENDERjSMALL LETTER SHHA WITH DESCENDERjCAPITAL LETTER EN WITH",
    " LEFT HOOKjSMALL LETTER EN WITH LEFT HOOKjCAPITAL LETTER DZZHEjSMALL LETTER DZZHEjCAPITAL LETTER DCHEj",
    "SMALL LETTER DCHEjCAPITAL LETTER EL WITH DESCENDERjSMALL LETTER EL WITH DESCENDER?aARMENIAN CAPITAL LE",
    "TTER AYByBENyGIMyDAyECHyZAyEHzaTyTOyZHEyINIyLIWNyXEHyCAyKENyHOyJAyGHADyCHEHyMENyYIyNOWySHAyVOyCHAyPEHy",
    "JHEHyRAySEHyVEWyTIWNyREHyCOyYIWNyPIWRyKEHyOHyFEH??jMODIFIER LETTER LEFT HALF RINGjAPOSTROPHEjEMPHASIS ",
    "MARKkXCLAMATION MARKjCOMMAjQUESTION MARKjABBREVIATION MARKjSMALL LETTER TURNED AYBwAYBwBENwGIMwDAwECHw",
    "ZAwEHxTwTOwZHEwINIwLIWNwXEHwCAwKENwHOwJAwGHADwCHEHwMENwYIwNOWwSHAwVOwCHAwPEHwJHEHwRAwSEHwVEWwTIWNwREHw",
    "COwYIWNwPIWRwKEHwOHwFEHqIGATURE ECH YIWNqETTER YI WITH STROKEjFULL STOPjHYPHEN??aRIGHT-FACING ARMENIAN",
    " ETERNITY SIGNaLEFT-FACING ARMENIAN ETERNITY SIGNaARMENIAN DRAM SIGN?aHEBREW ACCENT ETNAHTAoSEGOLpHALS",
    "HELEToZAQEF QATANuGADOLoTIPEHAoREVIAoZARQAoPASHTAoYETIVoTEVIRoGERESHu MUQDAMrSHAYIMoQARNEY PARAoTELISH",
    "A GEDOLAoPAZERoATNAH HAFUKHoMUNAHpAHAPAKHpERKHAu KEFULAoDARGAoQADMAoTELISHA QETANAoYERAH BEN YOMOoOLEo",
    "ILUYoDEHIoZINORhMARK MASORA CIRCLEhPOINT SHEVAnHATAF SEGOLtPATAHtQAMATSoIRIQnTSEREnSEGOLnPATAHnQAMATSn",
    "HOLAMs HASER FOR VAVnQUBUTSnDAGESH OR MAPIQnMETEGiUNCTUATION MAQAFiOINT RAFEiUNCTUATION PASEQiOINT SHI",
    "N DOToIN DOTiUNCTUATION SOF PASUQhMARK UPPER DOTmLOWER DOThPUNCTUATION NUN HAFUKHAiOINT QAMATS QATAN"]),
  (0x5D0, ["aHEBREW LETTER ALEFoBEToGIMELoDALEToHEoVAVoZAYINoHEToTEToYODoFINAL KAFoKAFoLAMEDoFINAL MEMoMEM",
    "oFINAL NUNoNUNoSAMEKHoAYINoFINAL PEoPEoFINAL TSADIoTSADIoQOFoRESHoSHINoTAV????hYOD TRIANGLEhLIGATURE Y",
    "IDDISH DOUBLE VAVyVAV YODyDOUBLE YODhPUNCTUATION GERESHwSHAYIM"]),
  (0x600, ["aARABIC NUMBER SIGNhSIGN SANAHhFOOTNOTE MARKERhSIGN SAFHAoMVAThNUMBER MARK ABOVEg-INDIC CUBE R",
    "OOTnFOURTH ROOTg RAYg-INDIC PER MILLE SIGNrTEN THOUSAND SIGNbFGHANI SIGNbRABIC COMMAhDATE SEPARATORhPO",
    "ETIC VERSE SIGNhSIGN MISRAmSALLALLAHOU ALAYHE WASSALLAMmALAYHE ASSALLAMmRAHMATULLAH ALAYHEoDI ALLAHOU ",
    "ANHUmTAKHALLUSiMALL HIGH TAHsLIGATURE ALEF WITH LAM WITH YEHsZAINnFATHAnDAMMAnKASRAiEMICOLONhLETTER MA",
    "RKhEND OF TEXT MARKhTRIPLE DOT PUNCTUATION MARKhQUESTION MARKhLETTER KASHMIRI YEHoHAMZAoALEF WITH MADD",
    "A ABOVEyHAMZA ABOVEoWAW WITH HAMZA ABOVEoALEF WITH HAMZA BELOWoYEH WITH HAMZA ABOVEoALEFoBEHoTEH MARBU",
    "TAqHpHEHoJEEMoHAHoKHAHoDALoTHALoREHoZAINoSEENpHEENpADoDADoTAHoZAHoAINoGHAINoKEHEH WITH TWO DOTS ABOVEz",
    "bHREE DOTS BELOWoFARSI YEH WITH INVERTED VzeTWO DOTS ABOVEzfHREE DOTS ABOVEhTATWEELhLETTER FEHoQAFoKAF",
    "oLAMoMEEMoNOONoHEHoWAWoALEF MAKSURAoYEHhFATHATANhDAMMATANhKASRATANhFATHAhDAMMAhKASRAhSHADDAiUKUNhMADDA",
    "H ABOVEhHAMZA ABOVEnBELOWhSUBSCRIPT ALEFhINVERTED DAMMAhMARK NOON GHUNNAhZWARAKAYhVOWEL SIGN SMALL V A",
    "BOVEsINVERTED SMALL V ABOVEsDOT BELOWhREVERSED DAMMAhFATHA WITH TWO DOTShWAVY HAMZA BELOWg-INDIC DIGIT",
    " ZEROtONEtTWOuHREEtFOURuIVEtSIXuEVENtEIGHTtNINEg PERCENT SIGNhDECIMAL SEPARATORhTHOUSANDS SEPARATORhFI",
    "VE POINTED STARhLETTER DOTLESS BEHwQAFoSUPERSCRIPT ALEFoALEF WASLAuITH WAVY HAMZA ABOVEzkBELOWoHIGH HA",
    "MZAy ALEFzaWAWoU WITH HAMZA ABOVEoHIGH HAMZA YEHoTTEHsEHoBEEHoTEH WITH RINGxTHREE DOTS ABOVE DOWNWARDS",
    "oPEHoTEHEHoBEHEHoHAH WITH HAMZA ABOVExTWO DOTS VERTICAL ABOVEoNYEHoDYEHoHAH WITH THREE DOTS ABOVEoTCHE",
    "HtEHoDDALpAL WITH RINGxDOT BELOWzh AND SMALL TAHqHALpDAHALpULpAL WITH THREE DOTS ABOVE DOWNWARDSxFOUR ",
    "DOTS ABOVEoRREHpEH WITH SMALL VxRINGxDOT BELOWxSMALL V BELOWxDOT BELOW AND DOT ABOVExTWO DOTS ABOVEoJE",
    "HoREH WITH FOUR DOTS ABOVEoSEEN WITH DOT BELOW AND DOT ABOVEyTHREE DOTS BELOWzp AND THREE DOTS ABOVEpA",
    "D WITH TWO DOTS BELOWyHREE DOTS ABOVEoTAH WITH THREE DOTS ABOVEoAIN WITH THREE DOTS ABOVEoDOTLESS FEHo",
    "FEH WITH DOT MOVED BELOWzcBELOWoVEHoFEH WITH THREE DOTS BELOWoPEHEHoQAF WITH DOT ABOVExTHREE DOTS ABOV",
    "EoKEHEHoSWASH KAFoKAF WITH RINGxDOT ABOVEoNGoKAF WITH THREE DOTS BELOWoGAFr WITH RINGoNGOEHoGAF WITH T",
    "WO DOTS BELOWpUEHpAF WITH THREE DOTS ABOVEoLAM WITH SMALL VxDOT ABOVExTHREE DOTS ABOVEzjBELOWoNOON WIT",
    "H DOT BELOWtGHUNNAoRNOONoNOON WITH RINGyTHREE DOTS ABOVEoHEH DOACHASHMEEoTCHEH WITH DOT ABOVEoHEH WITH",
    " YEH ABOVEsGOALw WITH HAMZA ABOVEoTEH MARBUTA GOALoWAW WITH RINGoKIRGHIZ OEoOEoUoYUoKIRGHIZ YUoWAW WIT",
    "H TWO DOTS ABOVEoVEoFARSI YEHoYEH WITH TAILxSMALL VoWAW WITH DOT ABOVEoEoYEH WITH THREE DOTS BELOWsBAR",
    "REEy WITH HAMZA ABOVEhFULL STOPhLETTER AEhSMALL HIGH LIGATURE SAD WITH LAM WITH ALEF MAKSURAzcQAF WITH",
    " LAM WITH ALEF MAKSURAsMEEM INITIAL FORMsLAM ALEFsJEEMsTHREE DOTSsSEENhEND OF AYAHhSTART OF RUB EL HIZ",
    "BiMALL HIGH ROUNDED ZEROsUPRIGHT RECTANGULAR ZEROsDOTLESS HEAD OF KHAHsMEEM ISOLATED FORMnLOW SEENnHIG",
    "H MADDAnWAWnYEHnHIGH YEHsNOONhPLACE OF SAJDAHhEMPTY CENTRE LOW STOPuHIGH STOPhROUNDED HIGH STOP WITH F",
    "ILLED CENTREhSMALL LOW MEEMhLETTER DAL WITH INVERTED VoREH WITH INVERTED VaEXTENDED ARABIC-INDIC DIGIT",
    " ZEROzdONEzdTWOzeHREEzdFOURzeIVEzdSIXzeEVENzdEIGHTzdNINEaARABIC LETTER SHEEN WITH DOT BELOWoDAD WITH D",
    "OT BELOWoGHAIN WITH DOT BELOWhSIGN SINDHI AMPERSANDtPOSTPOSITION MENhLETTER HEH WITH INVERTED VaSYRIAC",
    " END OF PARAGRAPHhSUPRALINEAR FULL STOPjBLINEAR FULL STOPjPRALINEAR COLONjBLINEAR COLONhHORIZONTAL COL",
    "ONhCOLON SKEWED LEFTuRIGHThSUPRALINEAR COLON SKEWED LEFTjBLINEAR COLON SKEWED RIGHThCONTRACTIONhHARKLE",
    "AN OBELUSqMETOBELUSqASTERISCUS?hABBREVIATION MARKhLETTER ALAPHoSUPERSCRIPT ALAPHoBETHoGAMALt GARSHUNIo",
    "DALATHpOTLESS DALATH RISHoHEoWAWoZAINoHETHoTETHs GARSHUNIoYUDHs HEoKAPHoLAMADHoMIMoNUNoSEMKATHoFINAL S",
    "EMKATHoEoPEoREVERSED PEoSADHEoQAPHoRISHoSHINoTAWoPERSIAN BHETHwGHAMALwDHALATHhPTHAHA ABOVEoBELOWoDOTTE",
    "DhZQAPHA ABOVEoBELOWoDOTTEDhRBASA ABOVEnBELOWhDOTTED ZLAMA HORIZONTALuANGULARhHBASA ABOVEnBELOWm-ESASA",
    " DOTTEDhESASA ABOVEnBELOWhRWAHAhFEMININE DOThQUSHSHAYAhRUKKAKHAhTWO VERTICAL DOTS ABOVEzaBELOWiHREE DO",
    "TS ABOVEsBELOWhOBLIQUE LINE ABOVEuBELOWhMUSIChBARREKH??hLETTER SOGDIAN ZHAINwKHAPHwFEaARABIC LETTER BE",
    "H WITH THREE DOTS HORIZONTALLY BELOWxDOT BELOW AND THREE DOTS ABOVExTHREE DOTS POINTING UPWARDS BELOWz",
    "zg AND TWO DOTS ABOVEyWO DOTS BELOW AND DOT ABOVExINVERTED SMALL V BELOWxSMALL VoHAH WITH TWO DOTS ABO",
    "VEyHREE DOTS POINTING UPWARDS BELOWoDAL WITH TWO DOTS VERTICALLY BELOW AND SMALL TAHxINVERTED SMALL V ",
    "BELOWoREH WITH STROKEoSEEN WITH FOUR DOTS ABOVEoAIN WITH TWO DOTS ABOVEyHREE DOTS POINTING DOWNWARDS A",
    "BOVEyWO DOTS VERTICALLY ABOVEoFEH WITH TWO DOTS BELOWyHREE DOTS POINTING UPWARDS BELOWoKEHEH WITH DOT ",
    "ABOVEzaTHREE DOTS ABOVEzlPOINTING UPWARDS BELOWoMEEM WITH DOT ABOVEzdBELOWoNOON WITH TWO DOTS BELOWySM",
    "ALL TAHzfVoLAM WITH BARoREH WITH TWO DOTS VERTICALLY ABOVExHAMZA ABOVEoSEEN WITH TWO DOTS VERTICALLY A",
    "BOVEoHAH WITH SMALL ARABIC LETTER TAH BELOWzwAND TWO DOTSoSEEN WITH SMALL ARABIC LETTER TAH AND TWO DO",
    "TSoREH WITH SMALL ARABIC LETTER TAH AND TWO DOTSoHAH WITH SMALL ARABIC LETTER TAH ABOVEoALEF WITH EXTE",
    "NDED ARABIC-INDIC DIGIT TWO ABOVEzzdHREE ABOVEoFARSI YEH WITH EXTENDED ARABIC-INDIC DIGIT TWO ABOVEzzi",
    "HREE ABOVEzzhFOUR BELOWoWAW WITH EXTENDED ARABIC-INDIC DIGIT TWO ABOVEzzcHREE ABOVEoYEH BARREE WITH EX",
    "TENDED ARABIC-INDIC DIGIT TWO ABOVEzzjHREE ABOVEoHAH WITH EXTENDED ARABIC-INDIC DIGIT FOUR BELOWoSEEN ",
    "WITH EXTENDED ARABIC-INDIC DIGIT FOUR ABOVEyINVERTED VoKAF WITH TWO DOTS ABOVEaTHAANA LETTER HAAoSHAVI",
    "YANIoNOONUoRAAoBAAoLHAVIYANIoKAAFUoALIFUoVAAVUoMEEMUoFAAFUoDHAALUoTHAAoLAAMUoGAAFUpNAVIYANIoSEENUoDAVI",
    "YANIoZAVIYANIoTAVIYANIoYAAoPAVIYANIoJAVIYANIoCHAVIYANIoTTAAoHHAAoKHAAoTHAALUoZAAoSHEENUpAADHUoDAADHUoT",
    "OoZOoAINUoGHAINUoQAAFUoWAAVUhABAFILIiABAAFILIhIBIFILIhEEBEEFILIhUBUFILIhOOBOOFILIhEBEFILIiYBEYFILIhOBO",
    "FILIiABOAFILIhSUKUNhLETTER NAA"]),
  (0x7C0, ["aNKO DIGIT ZEROkONEkTWOlHREEkFOURlIVEkSIXlEVENkEIGHTkNINEeLETTER AlEElIlElUlOOlOlDAGBASINNAlNl",
    "BAlPAlTAlJAlCHAlDAlRAmRAlSAlGBAlFAlKAlLAlNA WOLOSOlMAlNYAmAlHAlWAlYAlNYA WOLOSOlJONA JAqCHAqRAeCOMBINI",
    "NG SHORT HIGH TONEuLOW TONEuRISING TONEoLONG DESCENDING TONEtHIGH TONEtLOW TONEtRISING TONEoNASALIZATI",
    "ON MARKoDOUBLE DOT ABOVEeHIGH TONE APOSTROPHEeLOW TONE APOSTROPHEeSYMBOL OO DENNENlGBAKURUNENeCOMMAeEX",
    "CLAMATION MARKeLAJANYALAN??eDANTAYALANfOROME SIGNeTAMAN SIGNaSAMARITAN LETTER ALAFrBITrGAMANrDALATrIYr",
    "BAArZENrITrTITrYUTrKAAFrLABATrMIMrNUNrSINGAATrINrFIrTSAADIYrQUFrRISHrSHANrTAAFkMARK INr-ALAFpOCCLUSION",
    "pDAGESHlODIFIER LETTER EPENTHETIC YUTlARK EPENTHETIC YUTkVOWEL SIGN LONG EvEvOVERLONG AAvLONG AAvAAvOV",
    "ERLONG AvLONG AvAkMODIFIER LETTER SHORT AkVOWEL SIGN SHORT AvLONG UvUkMODIFIER LETTER IkVOWEL SIGN LON",
    "G IvIvOvSUKUNkMARK NEQUDAA??kPUNCTUATION NEQUDAAwAFSAAQxNGEDwBAUwATMAAUwSHIYYAALAAkABBREVIATION MARKkP",
    "UNCTUATION MELODIC QITSAwZIQAAwQITSAwZAEFwTURUwARKAANUwSOF MASHFAATwANNAAU?aMANDAIC LETTER HALQApABqGq",
    "DqHpUSHENNApAZpITpATTqKSAqKqLqMqNqSpINpAPqSZqQqRqSHqTpDUSHENNApKADpAINiAFFRICATION MARKiVOCALIZATION M",
    "ARKiGEMINATION MARK??iPUNCTUATION?aSYRIAC LETTER MALAYALAM NGAyJAyNYAyTTAyNNAzbNAyBHAyRAyLLAzbLAySSA??",
    "???aARABIC LETTER ALEF WITH ATTACHED FATHAziTOP RIGHT FATHAyRIGHT MIDDLE STROKEyLEFT MIDDLE STROKEyATT",
    "ACHED KASRAziBOTTOM RIGHT KASRAziROUND DOT ABOVEzjIGHT ROUND DOTziLEFT ROUND DOTziROUND DOT BELOWyDOT ",
    "ABOVEyATTACHED TOP RIGHT FATHA AND DOT ABOVEyRIGHT MIDDLE STROKE AND DOT ABOVEyATTACHED BOTTOM RIGHT K",
    "ASRA AND DOT ABOVEziTOP RIGHT FATHA AND LEFT RINGyRIGHT MIDDLE STROKE AND LEFT RINGyATTACHED BOTTOM RI",
    "GHT KASRA AND LEFT RINGziRIGHT HAMZAziLEFT HAMZAhTATWEEL WITH OVERSTRUCK HAMZAzgWAWuTWO DOTS BELOWhLET",
    "TER THIN YEHhBASELINE ROUND DOThRAISED ROUND DOThLETTER NOON WITH INVERTED SMALL VoHAH WITH INVERTED S",
    "MALL V BELOWoTAH WITH DOT BELOWxTHREE DOTS BELOWoKEHEH WITH TWO DOTS VERTICALLY BELOWhVERTICAL TAIL?hP",
    "OUND MARK ABOVEiIASTRE MARK ABOVE??????hSMALL HIGH WORD AL-JUZnLOW WORD ISHMAAMxMAALAwTASHEELhMADDA WA",
    "AJIBhSUPERSCRIPT ALEF MOKHASSAShDOUBLED MADDAhHALF MADDA OVER MADDAhLETTER BEH WITH SMALL V BELOWxHAMZ",
    "A ABOVEoJEEM WITH TWO DOTS ABOVEoTAH WITH TWO DOTS ABOVEoFEH WITH DOT BELOW AND THREE DOTS ABOVEoQAF W",
    "ITH DOT BELOWoLAM WITH DOUBLE BARoMEEM WITH THREE DOTS ABOVEoYEH WITH TWO DOTS BELOW AND HAMZA ABOVEzr",
    "DOT ABOVEoREH WITH LOOPoWAW WITH DOT WITHINoROHINGYA YEHoLOW ALEFoDAL WITH THREE DOTS BELOWoSAD WITH T",
    "HREE DOTS BELOWoGAF WITH INVERTED STROKEoSTRAIGHT WAWoZAIN WITH INVERTED V ABOVEoAIN WITH THREE DOTS B",
    "ELOWoKAF WITH DOT BELOWoQAF WITH DOT BELOW AND NO DOTS ABOVEoBEH WITH SMALL MEEM ABOVEoPEH WITH SMALL ",
    "MEEM ABOVEoTEH WITH SMALL TEH ABOVEoREH WITH SMALL NOON ABOVEoYEH WITH TWO DOTS BELOW AND SMALL NOON A",
    "BOVEoAFRICAN FEHwQAFwNOONoPEH WITH SMALL VoTEH WITH SMALL VpTEH WITH SMALL VpCHEH WITH SMALL VoKEHEH W",
    "ITH SMALL VoGHAIN WITH THREE DOTS ABOVEoAFRICAN QAF WITH THREE DOTS ABOVEoJEEM WITH THREE DOTS ABOVEzk",
    "BELOWoLAM WITH SMALL ARABIC LETTER TAH ABOVEoGRAFhSMALL FARSI YEHnHIGH FARSI YEHsYEH BARREE WITH TWO D",
    "OTS BELOWsWORD SAHsZAHhLARGE ROUND DOT ABOVExBELOWhSUKUN BELOWhLARGE CIRCLE BELOWnROUND DOT INSIDE CIR",
    "CLE BELOWhSMALL LOW WAWnHIGH WORD AR-RUBsSADsAINsQAFsNOON WITH KASRAnLOW NOON WITH KASRAnHIGH WORD ATH",
    "-THALATHAyS-SAJDAyN-NISFxSAKTAxQIFxWAQFAsFOOTNOTE MARKERsSIGN SAFHAhDISPUTED END OF AYAHhTURNED DAMMA ",
    "BELOWhCURLY FATHAnDAMMAnKASRAnFATHATANnDAMMATANnKASRATANhTONE ONE DOT ABOVEmTWO DOTS ABOVEmLOOP ABOVEm",
    "ONE DOT BELOWmTWO DOTS BELOWmLOOP BELOWhOPEN FATHATANmDAMMATANmKASRATANhSMALL HIGH WAWhFATHA WITH RING",
    "sDOT ABOVEhKASRA WITH DOT BELOWhLEFT ARROWHEAD ABOVEhRIGHT ARROWHEAD ABOVEhLEFT ARROWHEAD BELOWhRIGHT ",
    "ARROWHEAD BELOWhDOUBLE RIGHT ARROWHEAD ABOVEzk WITH DOThRIGHT ARROWHEAD ABOVE WITH DOThDAMMA WITH DOTh",
    "MARK SIDEWAYS NOON GHUNNAaDEVANAGARI SIGN INVERTED CANDRABINDUqCANDRABINDUqANUSVARAqVISARGAlLETTER SHO",
    "RT AsAtAsItIsUtUsVOCALIC RzbLsCANDRA EsSHORT EsEsAIsCANDRA OsSHORT OsOsAUsKAtHAsGAtHAsNGAsCAtHAsJAtHAs",
    "NYAsTTAuHAsDDAuHAsNNAsTAtHAsDAtHAsNAtNNAsPAtHAsBAtHAsMAsYAsRAtRAsLAtLAuLAsVAsSHAtSAtAsHAlVOWEL SIGN OE",
    "xOElSIGN NUKTAqAVAGRAHAlVOWEL SIGN AAwIxIwUxUwVOCALIC RzgRwCANDRA EwSHORT EwEwAIwCANDRA OwSHORT OwOwAU",
    "lSIGN VIRAMAlVOWEL SIGN PRISHTHAMATRA EwAWlOMlSTRESS SIGN UDATTAxANUDATTAlGRAVE ACCENTlACUTE ACCENTlVO",
    "WEL SIGN CANDRA LONG EwUExUElLETTER QAsKHHAsGHHAsZAsDDDHAsRHAsFAsYYAsVOCALIC RRzbLLlVOWEL SIGN VOCALIC",
    " LzgLlDANDAmOUBLE DANDAmIGIT ZEROrONErTWOsHREErFOURsIVErSIXsEVENrEIGHTrNINElABBREVIATION SIGNlSIGN HIG",
    "H SPACING DOTlLETTER CANDRA AsOEtOEsAWsUEtUEsMARWARI DDAsZHAsHEAVY YAsGGAsJJAsGLOTTAL STOPsDDDAsBBAaBE",
    "NGALI ANJIiSIGN CANDRABINDUnANUSVARAnVISARGA?iLETTER AqApIqIpUqUpVOCALIC RxL??pEpAI??pOpAUpKAqHApGAqHA",
    "pNGApCAqHApJAqHApNYApTTArHApDDArHApNNApTAqHApDAqHApNA?pPAqHApBAqHApMApYApRA?pLA???pSHAqSAqApHA??iSIGN ",
    "NUKTAnAVAGRAHAiVOWEL SIGN AAtIuItUuUtVOCALIC RzdR??tEtAI??tOtAUiSIGN VIRAMAiLETTER KHANDA TA"]),
  (0x9D7, ["aBENGALI AU LENGTH MARK????iLETTER RRAqHA?pYYApVOCALIC RRxLLiVOWEL SIGN VOCALIC LzdL??iDIGIT Z",
    "EROoONEoTWOpHREEoFOURpIVEoSIXpEVENoEIGHToNINEiLETTER RA WITH MIDDLE DIAGONALxLOWER DIAGONALiRUPEE MARK",
    "oSIGNiCURRENCY NUMERATOR ONEzcTWOzdHREEzcFOURzcONE LESS THAN THE DENOMINATORrDENOMINATOR SIXTEENiISSHA",
    "RiGANDA MARKiLETTER VEDIC ANUSVARAiABBREVIATION SIGNiSANDHI MARK??aGURMUKHI SIGN ADAK BINDIoBINDIoVISA",
    "RGA?jLETTER ArAqIrIqUrU????qEEqAI??qOOqAUqKArHAqGArHAqNGAqCArHAqJArHAqNYAqTTAsHAqDDAsHAqNNAqTArHAqDArH",
    "AqNA?qPArHAqBArHAqMAqYAqRA?qLArLA?qVAqSHA?rAqHA??jSIGN NUKTA?jVOWEL SIGN AAuIvIuUvU????uEEuAI??uOOuAUj",
    "SIGN VIRAMA???oUDAAT???????jLETTER KHHAqGHHAqZAqRRA?qFA???????jDIGIT ZEROpONEpTWOqHREEpFOURqIVEpSIXqEV",
    "ENpEIGHTpNINEjTIPPIjADDAKjIRIjURAjEK ONKARjSIGN YAKASHjABBREVIATION SIGN"]),
  (0xA81, ["aGUJARATI SIGN CANDRABINDUoANUSVARAoVISARGA?jLETTER ArAqIrIqUrUqVOCALIC RyLjVOWEL CANDRA E?jLE",
    "TTER EqAIjVOWEL CANDRA O?jLETTER OqAUqKArHAqGArHAqNGAqCArHAqJArHAqNYAqTTAsHAqDDAsHAqNNAqTArHAqDArHAqNA",
    "?qPArHAqBArHAqMAqYAqRA?qLArLA?qVAqSHArSArAqHA??jSIGN NUKTAoAVAGRAHAjVOWEL SIGN AAuIvIuUvUuVOCALIC RzeR",
    "uCANDRA E?uEuAIuCANDRA O?uOuAUjSIGN VIRAMA??jOM"]),
  (0xAE0, ["aGUJARATI LETTER VOCALIC RRyLLjVOWEL SIGN VOCALIC LzeL??jDIGIT ZEROpONEpTWOqHREEpFOURqIVEpSIXq",
    "EVENpEIGHTpNINEjABBREVIATION SIGNjRUPEE SIGN???????jLETTER ZHAjSIGN SUKUNpHADDAoMADDAHoTHREE-DOT NUKTA",
    " ABOVEoCIRCLE NUKTA ABOVEoTWO-CIRCLE NUKTA ABOVE?aORIYA SIGN CANDRABINDUlANUSVARAlVISARGA?gLETTER AoAn",
    "IoInUoUnVOCALIC RvL??nEnAI??nOnAUnKAoHAnGAoHAnNGAnCAoHAnJAoHAnNYAnTTApHAnDDApHAnNNAnTAoHAnDAoHAnNA?nPA",
    "oHAnBAoHAnMAnYAnRA?nLAoLA?nVAnSHAoSAoAnHA??gSIGN NUKTAlAVAGRAHAgVOWEL SIGN AArIsIrUsUrVOCALIC RzbR??rE",
    "rAI??rOrAUgSIGN VIRAMA???????lOVERLINEgAI LENGTH MARKhU LENGTH MARK????gLETTER RRAoHA?nYYAnVOCALIC RRv",
    "LLgVOWEL SIGN VOCALIC LzbL??gDIGIT ZEROmONEmTWOnHREEmFOURnIVEmSIXnEVENmEIGHTmNINEgISSHARgLETTER WAgFRA",
    "CTION ONE QUARTERtHALFpTHREE QUARTERSpONE SIXTEENTHtEIGHTHpTHREE SIXTEENTHS"]),
  (0xB82, ["aTAMIL SIGN ANUSVARAlVISARGA?gLETTER AoAnIoInUoU???nEoEnAI?nOoOnAUnKA???nNGAnCA?nJA?nNYAnTTA??",
    "?nNNAnTA???nNAoNNAnPA???nMAnYAnRAoRAnLAoLApLAnVAnSHAoSAoAnHA????gVOWEL SIGN AArIsIrUsU???rEsErAI?rOsOr",
    "AUgSIGN VIRAMA??gOM??????gAU LENGTH MARK"]),
  (0xBE6, ["aTAMIL DIGIT ZEROmONEmTWOnHREEmFOURnIVEmSIXnEVENmEIGHTmNINEgNUMBER TENnONE HUNDREDrTHOUSANDgDA",
    "Y SIGNgMONTH SIGNgYEAR SIGNgDEBIT SIGNgCREDIT SIGNgAS ABOVE SIGNgRUPEE SIGNgNUMBER SIGN?????bELUGU SIG",
    "N COMBINING CANDRABINDU ABOVEnANDRABINDUmANUSVARAmVISARGAmCOMBINING ANUSVARA ABOVEhLETTER ApAoIpIoUpUo",
    "VOCALIC RwL?oEpEoAI?oOpOoAUoKApHAoGApHAoNGAoCApHAoJApHAoNYAoTTAqHAoDDAqHAoNNAoTApHAoDApHAoNA?oPApHAoBA",
    "pHAoMAoYAoRApRAoLApLAqLAoVAoSHApSApAoHA??hSIGN NUKTAmAVAGRAHAhVOWEL SIGN AAsItIsUtUsVOCALIC RzcR?sEtEs",
    "AI?sOtOsAUhSIGN VIRAMA???????hLENGTH MARKhAI LENGTH MARK?hLETTER TSAoDZAoRRRA??oNAKAARA POLLU??oVOCALI",
    "C RRwLLhVOWEL SIGN VOCALIC LzcL??hDIGIT ZEROnONEnTWOoHREEnFOURoIVEnSIXoEVENnEIGHTnNINE???????hSIGN SID",
    "DHAMhFRACTION DIGIT ZERO FOR ODD POWERS OF FOURwONE FOR ODD POWERS OF FOURwTWO FOR ODD POWERS OF FOURx",
    "HREE FOR ODD POWERS OF FOURwONE FOR EVEN POWERS OF FOURwTWO FOR EVEN POWERS OF FOURxHREE FOR EVEN POWE",
    "RS OF FOURhSIGN TUUMUaKANNADA SIGN SPACING CANDRABINDUnCANDRABINDUnANUSVARAnVISARGAnSIDDHAMiLETTER AqA",
    "pIqIpUqUpVOCALIC RxL?pEqEpAI?pOqOpAUpKAqHApGAqHApNGApCAqHApJAqHApNYApTTArHApDDArHApNNApTAqHApDAqHApNA?",
    "pPAqHApBAqHApMApYApRAqRApLAqLA?pVApSHAqSAqApHA??iSIGN NUKTAnAVAGRAHAiVOWEL SIGN AAtIuItUuUtVOCALIC Rzd",
    "R?tEuEtAI?tOuOtAUiSIGN VIRAMA???????iLENGTH MARKiAI LENGTH MARK??????iLETTER NAKAARA POLLUpFA?pVOCALIC",
    " RRxLLiVOWEL SIGN VOCALIC LzdL??iDIGIT ZEROoONEoTWOpHREEoFOURpIVEoSIXpEVENoEIGHToNINE?iSIGN JIHVAMULIY",
    "AnUPADHMANIYA"]),
  (0xD00, ["aMALAYALAM SIGN COMBINING ANUSVARA ABOVEqANDRABINDUpANUSVARApVISARGAkLETTER VEDIC ANUSVARArAsA",
    "rIsIrUsUrVOCALIC RzaL?rEsErAI?rOsOrAUrKAsHArGAsHArNGArCAsHArJAsHArNYArTTAtHArDDAtHArNNArTAsHArDAsHArNA",
    "sNNArPAsHArBAsHArMArYArRAsRArLAsLAtLArVArSHAsSAsArHArTTTAkSIGN VERTICAL BAR VIRAMApCIRCULAR VIRAMApAVA",
    "GRAHAkVOWEL SIGN AAvIwIvUwUvVOCALIC RzfR?vEwEvAI?vOwOvAUkSIGN VIRAMAkLETTER DOT REPHkSIGN PARA????kLET",
    "TER CHILLU MyYyLLLkAU LENGTH MARKkFRACTION ONE ONE-HUNDRED-AND-SIXTIETHxFORTIETHtTHREE EIGHTIETHStONE ",
    "TWENTIETHyENTHtTHREE TWENTIETHStONE FIFTHkLETTER ARCHAIC IIrVOCALIC RRzaLLkVOWEL SIGN VOCALIC LzfL??kD",
    "IGIT ZEROqONEqTWOrHREEqFOURrIVEqSIXrEVENqEIGHTqNINEkNUMBER TENrONE HUNDREDvTHOUSANDkFRACTION ONE QUART",
    "ERxHALFtTHREE QUARTERStONE SIXTEENTHxEIGHTHtTHREE SIXTEENTHSkDATE MARKkLETTER CHILLU NNyNyRRyLzaLyK?aS",
    "INHALA SIGN CANDRABINDUnANUSVARAYAnVISARGAYA?iLETTER AYANNAqAYANNAqEYANNArEYANNApIYANNAqIYANNApUYANNAq",
    "UYANNApIRUYANNAsUYANNAqLUYANNAsUYANNApEYANNAqEYANNApAIYANNApOYANNAqOYANNApAUYANNA???qLPAPRAANA KAYANNA",
    "pMAHAAPRAANA KAYANNApALPAPRAANA GAYANNApMAHAAPRAANA GAYANNApKANTAJA NAASIKYAYApSANYAKA GAYANNApALPAPRA",
    "ANA CAYANNApMAHAAPRAANA CAYANNApALPAPRAANA JAYANNApMAHAAPRAANA JAYANNApTAALUJA NAASIKYAYAxSANYOOGA NAA",
    "KSIKYAYApSANYAKA JAYANNApALPAPRAANA TTAYANNApMAHAAPRAANA TTAYANNApALPAPRAANA DDAYANNApMAHAAPRAANA DDAY",
    "ANNAqUURDHAJA NAYANNApSANYAKA DDAYANNApALPAPRAANA TAYANNApMAHAAPRAANA TAYANNApALPAPRAANA DAYANNApMAHAA",
    "PRAANA DAYANNApDANTAJA NAYANNA?pSANYAKA DAYANNApALPAPRAANA PAYANNApMAHAAPRAANA PAYANNApALPAPRAANA BAYA",
    "NNApMAHAAPRAANA BAYANNArYANNApAMBA BAYANNApYAYANNApRAYANNA?pDANTAJA LAYANNA??pVAYANNApTAALUJA SAYANNAp",
    "MUURDHAJA SAYANNApDANTAJA SAYANNApHAYANNApMUURDHAJA LAYANNApFAYANNA???iSIGN AL-LAKUNA????iVOWEL SIGN A",
    "ELA-PILLAtKETTI AEDA-PILLAtDIGA AEDA-PILLAtKETTI IS-PILLAtDIGA IS-PILLAtKETTI PAA-PILLA?tDIGA PAA-PILL",
    "A?tGAETTA-PILLAtKOMBUVAtDIGA KOMBUVAtKOMBU DEKAyVA HAA AELA-PILLAzgDIGA AELA-PILLAzgGAYANUKITTAtGAYANU",
    "KITTA??????iLITH DIGIT ZEROtONEtTWOuHREEtFOURuIVEtSIXuEVENtEIGHTtNINE??iVOWEL SIGN DIGA GAETTA-PILLAzb",
    "YANUKITTAiPUNCTUATION KUNDDALIYA"]),
  (0xE01, ["aTHAI CHARACTER KO KAIqHO KHAIvUATvWAIvONtRAKHANGpNGO NGUpCHO CHANvINGvANGpSO SOpCHO CHOEpYO Y",
    "INGpDO CHADApTO PATAKqHO THANtNANGMONTHOtPHUTHAOpNO NENpDO DEKpTO TAOqHO THUNGvAHANvONGpNO NUpBO BAIMA",
    "IpPO PLAqHO PHUNGpFO FApPHO PHANpFO FANpPHO SAMPHAOpMO MApYO YAKpRO RUAqUpLO LINGqUpWO WAENpSO SALAsRU",
    "SIsSUApHO HIPpLO CHULApO ANGpHO NOKHUKpPAIYANNOIpSARA ApMAI HAN-AKATpSARA AAvMuIvIuUEwEuUvUpPHINTHU???",
    "?gURRENCY SYMBOL BAHTgHARACTER SARA EuAEuOuAI MAIMUANzcALAIpLAKKHANGYAOpMAIYAMOKsTAIKHUs EKtTHOuRItCHA",
    "TTAWApTHANTHAKHATpNIKHAHITpYAMAKKANpFONGMANfDIGIT ZEROlONElTWOmHREElFOURmIVElSIXmEVENlEIGHTlNINEfCHARA",
    "CTER ANGKHANKHUpKHOMUT"]),
  (0xE81, ["aLAO LETTER KOmHO SUNG?pTAM?lPALI GHAlNGOlCOlPALI CHAlSO TAM?lPALI JHAlNYOlPALI NYAqTTAsHAqDDA",
    "sHAqNNAlDOlTOmHO SUNGpTAMlPALI DHAlNOlBOlPOmHO SUNGlFO TAMlPHO TAMlFO SUNGlPALI BHAlMOlYOlLO LING?pOOT",
    "?lWOlSANSKRIT SHAvSAmO SUNGlHO SUNGlPALI LLAlOlHO TAMeELLIPSISeVOWEL SIGN ApMAI KANpAAqMpIqIpYqYpUqUeS",
    "IGN PALI VIRAMAeVOWEL SIGN MAI KONeSEMIVOWEL SIGN LOtNYO??eVOWEL SIGN EqIpOpAYqI?eKO LA?eTONE MAI EKnT",
    "HOoInCATAWAeCANCELLATION MARKeNIGGAHITA??eDIGIT ZEROkONEkTWOlHREEkFOURlIVEkSIXlEVENkEIGHTkNINE??eHO NO",
    "hMOeLETTER KHMU GOqNYO"]),
  (0xF00, ["aTIBETAN SYLLABLE OMiMARK GTER YIG MGO TRUNCATED Azb-UM RNAM BCAD MAzfGTER TSHEG MAnINITIAL YI",
    "G MGO MDUN MAnCLOSING YIG MGO SGAB MAoARET YIG MGO PHUR SHAD MAnYIG MGO TSHEG SHAD MAnSBRUL SHADnBSKUR",
    " YIG MGOoKA- SHOG YIG MGOnINTERSYLLABIC TSHEGnDELIMITER TSHEG BSTARnSHADnNYIS SHADnTSHEG SHADnNYIS TSH",
    "EG SHADnRIN CHEN SPUNGS SHADoGYA GRAM SHADnCARET -DZUD RTAGS ME LONG CANnGTER TSHEGiLOGOTYPE SIGN CHAD",
    " RTAGSwLHAG RTAGSiASTROLOGICAL SIGN SGRA GCAN -CHAR RTAGSzb-KHYUD PAzbSDONG TSHUGSiSIGN RDEL DKAR GCIG",
    "yNYISySUMsNAG GCIGxNYISsDKAR RDEL NAGiDIGIT ZEROoONEoTWOpHREEoFOURpIVEoSIXpEVENoEIGHToNINEoHALF ONEtTW",
    "OuHREEtFOURuIVEtSIXuEVENtEIGHTtNINEtZEROiMARK BSDUS RTAGSnNGAS BZUNG NYI ZLAnCARET -DZUD RTAGS BZHI MI",
    "G CANnNGAS BZUNG SGOR RTAGSnCHE MGOnTSA -PHRUnGUG RTAGS GYONzaASnANG KHANG GYONzaASiSIGN YAR TSHESnMAR",
    " TSHESiLETTER KAqHApGAqHApNGApCAqHApJA?pNYApTTArHApDDArHApNNApTAqHApDAqHApNApPAqHApBAqHApMApTSArHApDZA",
    "rHApWApZHAqAp-ApYApRApLApSHAqSAqApHApApKSSApFIXED-FORM RApKKApRRA????iVOWEL SIGN AAtIuItUuUtVOCALIC Rz",
    "dRzcLzdLtEuEtOuOiSIGN RJES SU NGA ROoNAM BCADiVOWEL SIGN REVERSED IzeIiSIGN NYI ZLA NAA DAnSNA LDANiMA",
    "RK HALANTAnPALUTAiSIGN LCI RTAGSnYANG RTAGSnLCE TSA CANnMCHU CANnGRU CAN RGYINGSrMED RGYINGSnINVERTED ",
    "MCHU CANjUBJOINED SIGN LCE TSA CANxMCHU CANxINVERTED MCHU CANsLETTER KAzbHAzaGAzbHAzaNGAzaCAzbHAzaJA?z",
    "aNYAzaTTAzcHAzaDDAzcHAzaNNAzaTAzbHAzaDAzbHAzaNAzaPAzbHAzaBAzbHAzaMAzaTSAzcHAzaDZAzcHAzaWAzaZHAzbAza-Az",
    "aYAzaRAzaLAzaSHAzbSAzbAzaHAzaAzaKSSAzaFIXED-FORM WAzlYAzlRA?iKU RU KHAr BZHI MIG CANiCANTILLATION SIGN",
    " HEAVY BEATzbLIGHT BEATzbCANG TE-UzbSBUB -CHALiSYMBOL DRIL BUpRDO RJEpPADMA GDANpRDO RJE RGYA GRAMpPHU",
    "R PApNOR BUv NYIS -KHYILwGSUM -KHYILwBZHI -KHYIL?jIGN RDEL NAG RDEL DKARwGSUMiMARK BSKA- SHOG GI MGO R",
    "GYANnMNYAM YIG GI MGO RGYANnNYIS TSHEGnINITIAL BRDA RNYING YIG MGO MDUN MAnCLOSING BRDA RNYING YIG MGO",
    " SGAB MAaRIGHT-FACING SVASTI SIGNaLEFT-FACING SVASTI SIGNaRIGHT-FACING SVASTI SIGN WITH DOTSaLEFT-FACI",
    "NG SVASTI SIGN WITH DOTSaTIBETAN MARK LEADING MCHAN RTAGSnTRAILING MCHAN RTAGS"]),
  (0x1000, ["aMYANMAR LETTER KAqHApGAqHApNGApCAqHApJAqHApNYAqNYApTTArHApDDArHApNNApTAqHApDAqHApNApPAqHApBAq",
    "HApMApYApRApLApWApSApHApLLApApSHAN ApIqIpUqUpEpMON EpOpAUiVOWEL SIGN TALL AAtAAtIuItUuUtEtAItMON IIxOt",
    "E ABOVEiSIGN ANUSVARAnDOT BELOWnVISARGApRAMAnASATiCONSONANT SIGN MEDIAL YAzfRAzfWAzfHAiLETTER GREAT SA",
    "iDIGIT ZEROoONEoTWOpHREEoFOURpIVEoSIXpEVENoEIGHToNINEiSIGN LITTLE SECTIONnSECTIONjYMBOL LOCATIVEpCOMPL",
    "ETEDpAFOREMENTIONEDpGENITIVEiLETTER SHAqSApVOCALIC RyRxLyLiVOWEL SIGN VOCALIC RzdRzcLzdLiLETTER MON NG",
    "AtJHAtBBAvEiCONSONANT SIGN MON MEDIAL NAzjMAzjLAiLETTER SGAW KAREN SHAiVOWEL SIGN SGAW KAREN EUiTONE M",
    "ARK SGAW KAREN HATHIzeKE PHOiLETTER WESTERN PWO KAREN THAziPWAiVOWEL SIGN WESTERN PWO KAREN EUzmUEiSIG",
    "N WESTERN PWO KAREN TONE-1zl2zl3zl4zl5iLETTER EASTERN PWO KAREN NNAziYWAziGHWAiVOWEL SIGN GEBA KAREN I",
    "tKAYAH OEzaUzaEEiLETTER SHAN KAvHAuGAuCAuZAuNYAuDAuNAuPHAuFAuBAuTHAuHAiCONSONANT SIGN SHAN MEDIAL WAiV",
    "OWEL SIGN SHAN AAyEza ABOVEyFINAL YiSIGN SHAN TONE-2x3x5x6sCOUNCIL TONE-2zg3zbEMPHATIC TONEiLETTER RUM",
    "AI PALAUNG FAiSIGN RUMAI PALAUNG TONE-5jHAN DIGIT ZEROtONEtTWOuHREEtFOURuIVEtSIXuEVENtEIGHTtNINEjIGN K",
    "HAMTI TONE-1za3iVOWEL SIGN AITON AzbIiSYMBOL SHAN ONEuEXCLAMATIONaGEORGIAN CAPITAL LETTER ANyBANyGANyD",
    "ONyENyVINyZENyTANyINyKANyLASyMANyNARyONyPARyZHARyRAEySANyTARyUNyPHARyKHARyGHANyQARySHINyCHINzaANyJILyC",
    "ILzaHARyXANyJHANyHAEzaEzaIEyWEyHARzaOE?yYN?????yAEN??jLETTER ANqBANqGANqDONqENqVINqZENqTANqINqKANqLASq",
    "MANqNARqONqPARqZHARqRAEqSANqTARqUNqPHARqKHARqGHANqQARqSHINqCHINrANqJILqCILrHARqXANqJHANqHAErErIEqWEqHA",
    "RrOEqFIqYNqELIFIqTURNED GANqAINjPARAGRAPH SEPARATORaMODIFIER LETTER GEORGIAN NARaGEORGIAN LETTER AENqH",
    "ARD SIGNqLABIAL SIGNaHANGUL CHOSEONG KIYEOKqSSANGKIYEOKqNIEUNqTIKEUTqSSANGTIKEUTqRIEULqMIEUMqPIEUPqSSA",
    "NGPIEUPrIOSrSANGSIOSqIEUNGqCIEUCqSSANGCIEUCqCHIEUCHqKHIEUKHqTHIEUTHqPHIEUPHqHIEUHqNIEUN-KIYEOKqSSANGNI",
    "EUNqNIEUN-TIKEUTwPIEUPqTIKEUT-KIYEOKqRIEUL-NIEUNqSSANGRIEULqRIEUL-HIEUHqKAPYEOUNRIEULqMIEUM-PIEUPqKAPY",
    "EOUNMIEUMqPIEUP-KIYEOKwNIEUNwTIKEUTwSIOSzb-KIYEOKzcTIKEUTzcPIEUPxSANGSIOSxIOS-CIEUCwCIEUCxHIEUCHwTHIEU",
    "THwPHIEUPHqKAPYEOUNPIEUPySSANGPIEUPqSIOS-KIYEOKvNIEUNvTIKEUTvRIEULvMIEUMvPIEUPzb-KIYEOKvSSANGSIOSvIEUN",
    "GvCIEUCwHIEUCHvKHIEUKHvTHIEUTHvPHIEUPHvHIEUHqCHITUEUMSIOSzaSANGSIOSrEONGCHIEUMSIOSzdSANGSIOSqPANSIOSqI",
    "EUNG-KIYEOKwTIKEUTwMIEUMwPIEUPwSIOSwPANSIOSqSSANGIEUNGqIEUNG-CIEUCxHIEUCHwTHIEUTHwPHIEUPHqYESIEUNGqCIE",
    "UC-IEUNGrHITUEUMCIEUCySSANGCIEUCrEONGCHIEUMCIEUCzcSSANGCIEUCrHIEUCH-KHIEUKHyHIEUHtTUEUMCHIEUCHrEONGCHI",
    "EUMCHIEUCHqPHIEUPH-PIEUPqKAPYEOUNPHIEUPHqSSANGHIEUHqYEORINHIEUHqKIYEOK-TIKEUTqNIEUN-SIOSwCIEUCwHIEUHqT",
    "IKEUT-RIEULqFILLERhJUNGSEONG FILLERrAsErYAtErEOrErYEOsErOrWAtErOErYOrUrWEOsEsIrYUrEUrYIrIrA-OtUrYA-OuY",
    "OrEO-OuUuEUrYEO-OvUrO-EOtEtYEtOtUrYO-YAwEvEOuOuIrU-AuEtEO-EUtYEtUrYU-AuEOuEuYEOvEuUuIrEU-UuEUrYI-UrI-A",
    "tYAtOtUtEUtARAEArARAEAw-EOxUxIrSSANGARAEArA-EUrYA-UsEO-YArO-YAvEiONGSEONG KIYEOKrSSANGKIYEOKrKIYEOK-SI",
    "OSrNIEUNw-CIEUCxHIEUHrTIKEUTrRIEULw-KIYEOKxMIEUMxPIEUPxSIOSxTHIEUTHxPHIEUPHxHIEUHrMIEUMrPIEUPw-SIOSrSI",
    "OSsSANGSIOSrIEUNGrCIEUCsHIEUCHrKHIEUKHrTHIEUTHrPHIEUPHrHIEUHrKIYEOK-RIEULySIOS-KIYEOKrNIEUN-KIYEOKxTIK",
    "EUTxSIOSxPANSIOSxTHIEUTHrTIKEUT-KIYEOKyRIEULrRIEUL-KIYEOK-SIOSxNIEUNxTIKEUTze-HIEUHrSSANGRIEULrRIEUL-M",
    "IEUM-KIYEOKzeSIOSxPIEUP-SIOSzeHIEUHxKAPYEOUNPIEUPxSSANGSIOSxPANSIOSxKHIEUKHxYEORINHIEUHrMIEUM-KIYEOKxR",
    "IEULxPIEUPxSIOSySANGSIOSxPANSIOSxCHIEUCHxHIEUHrKAPYEOUNMIEUMrPIEUP-RIEULxPHIEUPHxHIEUHrKAPYEOUNPIEUPrS",
    "IOS-KIYEOKwTIKEUTwRIEULwPIEUPrPANSIOSrIEUNG-KIYEOKxSSANGKIYEOKrSSANGIEUNGrIEUNG-KHIEUKHrYESIEUNGza-SIO",
    "SzbPANSIOSrPHIEUPH-PIEUPrKAPYEOUNPHIEUPHrHIEUH-NIEUNxRIEULxMIEUMxPIEUPrYEORINHIEUHrKIYEOK-NIEUNyPIEUPy",
    "CHIEUCHyKHIEUKHyHIEUHrSSANGNIEUNaETHIOPIC SYLLABLE HAtUtItAAtEEtEtOuAsLAtUtItAAtEEtEtOtWAsHHAuUuIuAAuE",
    "EuEuOuWAsMAtUtItAAtEEtEtOtWAsSZAuUuIuAAuEEuEuOuWAsRAtUtItAAtEEtEtOtWAsSAtUtItAAtEEtEtOtWAtHAuUuIuAAuEE",
    "uEuOuWAsQAtUtItAAtEEtEtOuAtWA?uIuAAuEEuE??tHAuUuIuAAuEEuEuO?uWA?vIvAAvEEvE??sBAtUtItAAtEEtEtOtWAsVAtUt",
    "ItAAtEEtEtOtWAsTAtUtItAAtEEtEtOtWAsCAtUtItAAtEEtEtOtWAsXAtUtItAAtEEtEtOuAtWA?uIuAAuEEuE??sNAtUtItAAtEE",
    "tEtOtWAtYAuUuIuAAuEEuEuOuWAsGLOTTAL AzbUzbIzbAAzbEEzbEzbOzbWAsKAtUtItAAtEEtEtOuAtWA?uIuAAuEEuE??tXAuUu",
    "IuAAuEEuEuO?uWA?vIvAAvEEvE??sWAtUtItAAtEEtEtOuAsPHARYNGEAL AzeUzeIzeAAzeEEzeEzeO?sZAtUtItAAtEEtEtOtWAt",
    "HAuUuIuAAuEEuEuOuWAsYAtUtItAAtEEtEtOuAsDAtUtItAAtEEtEtOtWAtDAuUuIuAAuEEuEuOuWAsJAtUtItAAtEEtEtOtWAsGAt",
    "UtItAAtEEtEtOuAtWA?uIuAAuEEuE??tGAuUuIuAAuEEuEuOuWAAsTHAuUuIuAAuEEuEuOuWAsCHAuUuIuAAuEEuEuOuWAsPHAuUuI",
    "uAAuEEuEuOuWAsTSAuUuIuAAuEEuEuOuWAtZAuUuIuAAuEEuEuOvAsFAtUtItAAtEEtEtOtWAsPAtUtItAAtEEtEtOtWAsRYAsMYAs",
    "FYA??jCOMBINING GEMINATION AND VOWEL LENGTH MARKtVOWEL LENGTH MARKtGEMINATION MARKjSECTION MARKjWORDSP",
    "ACEjFULL STOPjCOMMAjSEMICOLONjCOLONjPREFACE COLONjQUESTION MARKjPARAGRAPH SEPARATORjDIGIT ONEpTWOqHREE",
    "pFOURqIVEpSIXqEVENpEIGHTpNINEjNUMBER TENrWENTYrHIRTYqFORTYrIFTYqSIXTYrEVENTYqEIGHTYqNINETYqHUNDREDqTEN",
    " THOUSAND???jSYLLABLE SEBATBEIT MWAsMWIuEEuEsSEBATBEIT BWAsBWIuEEuEsSEBATBEIT FWAsFWIuEEuEsSEBATBEIT P",
    "WAsPWIuEEuEjTONAL MARK YIZETuDERETuRIKRIKuSHORT RIKRIKuDIFATuKENATuCHIRETuHIDETuDERET-HIDETuKURT??????",
    "aCHEROKEE LETTER AqEqIqOqUqVqGAqKAqGErIrOrUrVqHArErIrOrUrVqLArErIrOrUrVqMArErIrOrUqNAqHNAqNAHrErIrOrUr",
    "VqQUAsEsIsOsUsVqSAqSrErIrOrUrVqDAqTAqDEqTEqDIqTIqDOrUrVrLAqTLAsEsIsOsUsVrSAsEsIsOsUsVqWArErIrOrUrVqYAr",
    "ErIrOrUrVqMV??jSMALL LETTER YExIxOxUxVwMV??bANADIAN SYLLABICS HYPHENtEtAAItIuItOuOtY-CREE OOtCARRIER E",
    "EzcItAuAtWEvST-CREE WEuIuEST-CREE WIuIIuEST-CREE WIIuOuEST-CREE WOuOOuEST-CREE WOOtNASKAPI WOOtWAuEST-",
    "CREE WAuAAuEST-CREE WAAtNASKAPI WAAtAItY-CREE WtGLOTTAL STOPtFINAL ACUTEzaGRAVEzaBOTTOM HALF RINGzaTOP",
    " HALF RINGzaRIGHT HALF RINGzcNGzaDOUBLE ACUTEzhSHORT VERTICAL STROKESzaMIDDLE DOTzaSHORT HORIZONTAL ST",
    "ROKEzaPLUSzaDOWN TACKtENtINtONtANtPEuAAIuIvIuOvOtY-CREE POOtCARRIER HEEzdItPAvAuWEtWEST-CREE PWEtPWItW",
    "EST-CREE PWItPWIItWEST-CREE PWIItPWOtWEST-CREE PWOtPWOOtWEST-CREE PWOOtPWAtWEST-CREE PWAtPWAAtWEST-CRE",
    "E PWAAtY-CREE PWAAtPtWEST-CREE PtCARRIER HtTEuAAIuIvIuOvOtY-CREE TOOtCARRIER DEEzdItTAvAuWEtWEST-CREE ",
    "TWEtTWItWEST-CREE TWItTWIItWEST-CREE TWIItTWOtWEST-CREE TWOtTWOOtWEST-CREE TWOOtTWAtWEST-CREE TWAtTWAA",
    "tWEST-CREE TWAAtNASKAPI TWAAtTuTEvIvOvAtKEuAAIuIvIuOvOtY-CREE KOOtKAvAuWEtWEST-CREE KWEtKWItWEST-CREE ",
    "KWItKWIItWEST-CREE KWIItKWOtWEST-CREE KWOtKWOOtWEST-CREE KWOOtKWAtWEST-CREE KWAtKWAAtWEST-CREE KWAAtNA",
    "SKAPI KWAAtKuWtSOUTH-SLAVEY KEHziIHziOHziAHtCEuAAIuIvIuOvOtY-CREE COOtCAvAuWEtWEST-CREE CWEtCWItWEST-C",
    "REE CWItCWIItWEST-CREE CWIItCWOtWEST-CREE CWOtCWOOtWEST-CREE CWOOtCWAtWEST-CREE CWAtCWAAtWEST-CREE CWA",
    "AtNASKAPI CWAAtCtSAYISI THtMEuAAIuIvIuOvOtY-CREE MOOtMAvAuWEtWEST-CREE MWEtMWItWEST-CREE MWItMWIItWEST",
    "-CREE MWIItMWOtWEST-CREE MWOtMWOOtWEST-CREE MWOOtMWAtWEST-CREE MWAtMWAAtWEST-CREE MWAAtNASKAPI MWAAtMt",
    "WEST-CREE MtMHtATHAPASCAN MtSAYISI MtNEuAAIuIvIuOvOtY-CREE NOOtNAvAuWEtWEST-CREE NWEtNWAtWEST-CREE NWA",
    "tNWAAtWEST-CREE NWAAtNASKAPI NWAAtNtCARRIER NGtNHtLEuAAIuIvIuOvOtY-CREE LOOtLAvAuWEtWEST-CREE LWEtLWIt",
    "WEST-CREE LWItLWIItWEST-CREE LWIItLWOtWEST-CREE LWOtLWOOtWEST-CREE LWOOtLWAtWEST-CREE LWAtLWAAtWEST-CR",
    "EE LWAAtLtWEST-CREE LtMEDIAL LtSEuAAIuIvIuOvOtY-CREE SOOtSAvAuWEtWEST-CREE SWEtSWItWEST-CREE SWItSWIIt",
    "WEST-CREE SWIItSWOtWEST-CREE SWOtSWOOtWEST-CREE SWOOtSWAtWEST-CREE SWAtSWAAtWEST-CREE SWAAtNASKAPI SWA",
    "AtStATHAPASCAN StSWtBLACKFOOT StMOOSE-CREE SKtNASKAPI SKWzd-WzdPWAzdTWAzdKWAzdCWAtSHEvIwIvOwOvAwAvWEtW",
    "EST-CREE SHWEtSHWItWEST-CREE SHWItSHWIItWEST-CREE SHWIItSHWOtWEST-CREE SHWOtSHWOOtWEST-CREE SHWOOtSHWA",
    "tWEST-CREE SHWAtSHWAAtWEST-CREE SHWAAtSHtYEuAAIuIvIuOvOu-CREE YOOuAvAuWEtWEST-CREE YWEtYWItWEST-CREE Y",
    "WItYWIItWEST-CREE YWIItYWOtWEST-CREE YWOtYWOOtWEST-CREE YWOOtYWAtWEST-CREE YWAtYWAAtWEST-CREE YWAAtNAS",
    "KAPI YWAAtYtBIBLE-CREE YtWEST-CREE YtSAYISI YItREu-CREE REtWEST-CREE LEtRAAIuIvIuOvOtWEST-CREE LOtRAvA",
    "tWEST-CREE LAtRWAAtWEST-CREE RWAAtRtWEST-CREE RtMEDIAL RtFEuAAIuIvIuOvOuAvAuWAAtWEST-CREE FWAAtFtTHEtN",
    "-CREE THEtTHItN-CREE THItTHIItN-CREE THIItTHOwOvAwAvWAAtWEST-CREE THWAAtTHuTHEwIwOwAvHuYEvIvOvAtNUNAVI",
    "K HEzdIzeIzdOzeOzdAzeAzcHyUT HtHKtQAAIuIvIuOvOuAvAtQtTLHEwIwOwAtWEST-CREE REzfIzfOzfAtNGAAIvIwIvOwOvAw",
    "AuGuNGtSAYISI SHEzdIzdOzdAtWOODS-CREE THEzhIzhOzhAzgHtLHIwIvOwOvAwAuHtTH-CREE THEzeIzfIzeOzfOzeAzfAzdH",
    "tAIVILIK BtBLACKFOOT EzeIzeOzeAzeWEzfIzfOzfAzeNEzfIzfOzfAzeKEzfIzfOzfAtSAYISI HEzcIzcOzcAtCARRIER GHUz",
    "eOzeEzfEzeIzeAzcRUzdOzdEzeEzdIzdAzcWUzdOzdEzeEzdIzdAzcHWUzeOzeEzfEzeIzeAzcTHUzeOzeEzfEzeIzeAzdTUzeOzeE",
    "zfEzeIzeAzcPUzdOzdEzeEzdIzdAzcPzcGUzdOzdEzeEzdIzdAzcKHUzeOzeEzfEzeIzeAzdKUzeOzeEzfEzeIzeAzdKzcNUzdOzdE",
    "zeEzdIzdAzcMUzdOzdEzeEzdIzdAzcYUzdOzdEzeEzdIzdAzcJUtSAYISI JUtCARRIER JOzdEzeEzdItSAYISI JItCARRIER JA",
    "zdJUzeOzeEzfEzeIzeAzcLUzdOzdEzeEzdIzdAzcDLUzeOzeEzfEzeIzeAzcLHUzeOzeEzfEzeIzeAzcTLHUzfOzfEzgEzfIzfAzeU",
    "zeOzeEzfEzeIzeAzcZUzdOzdEzeEzdIzdAzcZzcINITIAL ZzcDZUzeOzeEzfEzeIzeAzcSUzdOzdEzeEzdIzdAzdHUzeOzeEzfEze",
    "IzeAzdHzcTSUzeOzeEzfEzeIzeAzcCHUzeOzeEzfEzeIzeAzcTTSUzfOzfEzgEzfIzfAuHI SIGNtFULL STOPtQAItNGAIuNGIxIw",
    "OxOwAxAtWOODS-CREE THWEEziIzjIziOzjOziAzjAzfFINAL THtBLACKFOOT WaOGHAM SPACE MARKgLETTER BEITHnLUISnFE",
    "ARNnSAILnNIONnUATHnDAIRnTINNEnCOLLoEIRTnMUINnGORTnNGEADALnSTRAIFnRUISnAILMnONNnURnEADHADHnIODHADHnEABH",
    "ADHnORnUILLEANNnIFINnEAMHANCHOLLnPEITHgFEATHER MARKgREVERSED FEATHER MARK???aRUNIC LETTER FEHU FEOH FE",
    " FnVnURUZ UR UnYRnYnWnTHURISAZ THURS THORNnETHnANSUZ AnOS OnAC AoESCnLONG-BRANCH-OSS OnSHORT-TWIG-OSS ",
    "OnOoEoNnRAIDO RAD REID RnKAUNAnCENnKAUN KnGnENGnGEBO GYFU GoARnWUNJO WYNN WnHAGLAZ HpEGL HnLONG-BRANCH",
    "-HAGALL HnSHORT-TWIG-HAGALL HnNAUDIZ NYD NAUD NnSHORT-TWIG-NAUD NnDOTTED-NnISAZ IS ISS InEnJERAN JnGER",
    "nLONG-BRANCH-AR AEnSHORT-TWIG-AR AnIWAZ EOHnPERTHO PEORTH PnALGIZ EOLHXnSOWILO SoIGEL LONG-BRANCH-SOL ",
    "SoHORT-TWIG-SOL SnCnZnTIWAZ TIR TYR TnSHORT-TWIG-TYR TnDnBERKANAN BEORC BJARKAN BnSHORT-TWIG-BJARKAN B",
    "nDOTTED-PnOPEN-PnEHWAZ EH EnMANNAZ MAN MnLONG-BRANCH-MADR MnSHORT-TWIG-MADR MnLAUKAZ LAGU LOGR LnDOTTE",
    "D-LnINGWAZpGnDAGAZ DAEG DnOTHALAN ETHEL OnEARnIORnCWEORTHoALCoEALCnSTANnLONG-BRANCH-YRnSHORT-TWIG-YRnI",
    "CELANDIC-YRnQnXgSINGLE PUNCTUATIONgMULTIPLE PUNCTUATIONgCROSS PUNCTUATIONgARLAUG SYMBOLgTVIMADUR SYMBO",
    "LgBELGTHOR SYMBOLgLETTER KnSHnOOnFRANKS CASKET OSzcISzcEHzcACzdESC???????aTAGALOG LETTER ApIpUpKApGApN",
    "GApTApDApNApPApBApMApYApRApLApWApSApHAiVOWEL SIGN ItUiSIGN VIRAMAnPAMUDPOD"]),
  (0x171F, ["aTAGALOG LETTER ARCHAIC RAaHANUNOO LETTER ApIpUpKApGApNGApTApDApNApPApBApMApYApRApLApWApSApHAi",
    "VOWEL SIGN ItUiSIGN PAMUDPODaPHILIPPINE SINGLE PUNCTUATIONlDOUBLE PUNCTUATION"]),
  (0x1740, ["aBUHID LETTER AnInUnKAnGAnNGAnTAnDAnNAnPAnBAnMAnYAnRAnLAnWAnSAnHAgVOWEL SIGN IrU"]),
  (0x1760, ["aTAGBANWA LETTER AqIqUqKAqGAqNGAqTAqDAqNAqPAqBAqMAqYA?qLAqWAqSA?jVOWEL SIGN IuU"]),
  (0x1780, ["aKHMER LETTER KAoHAoOoHOnNGOnCAoHAoOoHOnNYOnDAnTTHAnDOnTTHOnNNOnTAoHAoOoHOnNOnBAnPHAoOoHOnMOnY",
    "OnROnLOnVOnSHAoSOoAnHAnLAnQAgINDEPENDENT VOWEL QAQzbAzaIzbIzaUzbKzbUzcVyRYzbYyLYzbYyQEzaAIzaOO TYPE ON",
    "EziTWOzaAUgVOWEL INHERENT AQwAmSIGN AArIsIrYsYrUsUsArOErYArIErErAEsIrOOrAUgSIGN NIKAHITlREAHMUKlYUUKAL",
    "EAPINTUlMUUSIKATOANlTRIISAPlBANTOClROBATlTOANDAKHIATlKAKABATlAHSDAlSAMYOK SANNYAlVIRIAMlCOENGlBATHAMAS",
    "ATlKHANlBARIYOOSANlCAMNUC PII KUUHlLEK TOOlBEYYALlPHNAEK MUANlKOOMUUTgCURRENCY SYMBOL RIELgSIGN AVAKRA",
    "HASANYAmTTHACAN??gDIGIT ZEROmONEmTWOnHREEmFOURnIVEmSIXnEVENmEIGHTmNINE??????gSYMBOL LEK ATTAK SONxMUOY",
    "xPIIxBEIyUONxPRAMzc-MUOYzdPIIzdBEIzeUON??????aMONGOLIAN BIRGAkELLIPSISkCOMMAkFULL STOPkCOLONkFOUR DOTS",
    "kTODO SOFT HYPHENkSIBE SYLLABLE BOUNDARY MARKERkMANCHU COMMArFULL STOPkNIRUGUkFREE VARIATION SELECTOR ",
    "ONEzjTWOzkHREEkVOWEL SEPARATORkFREE VARIATION SELECTOR FOURkDIGIT ZEROqONEqTWOrHREEqFOURrIVEqSIXrEVENq",
    "EIGHTqNINE??????kLETTER ArErIrOrUrOErUErEErNArANGrBArPArQArGArMArLArSAsHArTArDArCHArJArYArRArWArFArKAs",
    "HArTSArZArHAArZRArLHArZHIrCHIrTODO LONG VOWEL SIGNwEwIwOwUwOEwUEwANGwBAwPAwQAwGAwMAwTAwDAwCHAwJAwTSAwY",
    "AwWAwKAwGAAwHAAwJIAwNIAwDZArSIBE EwIxYwUEwUwANGwKAwGAwHAwPAwSHAwTAwDAwJAwFAwGAAwHAAwTSAwZAwRAAwCHAwZHA",
    "rMANCHU IyKAyRAyFAyZHArCHA WITH TWO DOTS???????rALI GALI ANUSVARA ONEzbVISARGA ONEzbDAMARUzbUBADAMAzbI",
    "NVERTED UBADAMAzbBALUDAzbTHREE BALUDAzbAzbIzbKAzbNGAzbCAzbTTAzdHAzbDDAzbNNAzbTAzbDAzbPAzcHAzbSSAzbZHAz",
    "cAzbAHrTODO ALI GALI TAzgZHArMANCHU ALI GALI GHAziNGAziCAziJHAziTTAziDDHAziTAziDHAziSSAziCYAziZHAzjArA",
    "LI GALI HALF UzgYArMANCHU ALI GALI BHArALI GALI DAGALGArMANCHU ALI GALI LHA?????aCANADIAN SYLLABICS OY",
    "tAYuAYtWAYtPOYuAYuWOYtTAYtKAYuWAYtMAYtNOYuAYtLAYtSOYuAYuHOYvAYvWOYtYOYuAYtRAYtNWItOJIBWAY NWItNWIItOJI",
    "BWAY NWIItNWOtOJIBWAY NWOtNWOOtOJIBWAY NWOOtRWEEvIwIvOwOvAtOJIBWAY PzcTzcKzcCzcMzcNzcSzdHtEASTERN WtWE",
    "STERN WtFINAL SMALL RINGzaRAISED DOTtR-CREE RWEtWEST-CREE LOOzfAAtTHWEwAuTHWEwOOwAAuLHWEwOOtSAYISI SHW",
    "EzdOOzbHOOtCARRIER GWUzcDENE GEEzcGAAzdWAtSAYISI JUUtCARRIER JWAtBEAVER DENE LzgRtCARRIER DENTAL S"]),
  (0x1900, ["aLIMBU VOWEL-CARRIER LETTERgLETTER KAoHAnGAoHAnNGAnCAoHAnJAoHAnYANnTAoHAnDAoHAnNAnPAoHAnBAoHAn",
    "MAnYAnRAnLAnWAnSHAoSAoAnHAnGYANnTRA?gVOWEL SIGN ArIrUrEErAIrOOrAUrErOgSUBJOINED LETTER YAxRAxWA????hMA",
    "LL LETTER KAtNGAtANUSVARAtTAtNAtPAtMAtRAtLAhIGN MUKPHRENGlKEMPHRENGlSA-I????lLOO???gEXCLAMATION MARKgQ",
    "UESTION MARKgDIGIT ZEROmONEmTWOnHREEmFOURnIVEmSIXnEVENmEIGHTmNINEaTAI LE LETTER KAoXAoNGAoTSAoSAoYAoTA",
    "pHAoLAoPApHAoMAoFAoVAoHAoQAoKHAoTSHAoNAoAoIoEEpHoUoOOoOoUEoEoAUEpI??oTONE-2t3t4t5t6"]),
  (0x1980, ["aNEW TAI LUE LETTER HIGH QAtLOW QAtHIGH KAyXAyNGAtLOW KAxXAxNGAtHIGH TSAySAyYAtLOW TSAxSAxYAtH",
    "IGH TAzaHAyNAtLOW TAyHAxNAtHIGH PAzaHAyMAtLOW PAyHAxMAtHIGH FAyVAyLAtLOW FAxVAxLAtHIGH HAyDAyBAtLOW HA",
    "xDAxBAtHIGH KVAyXVAtLOW KVAxXVAtHIGH SUAtLOW SUA????mVOWEL SIGN VOWEL SHORTENERxAAxIIxUyUxExAExOyAxUEx",
    "AYyAYxUYxOYyAYxUEYxIYmLETTER FINAL VzaNGzaNzaMzaKzaDzaBmTONE MARK-1w2??????mDIGIT ZEROsONEsTWOtHREEsFO",
    "URtIVEsSIXtEVENsEIGHTsNINEmTHAM DIGIT ONE???mSIGN LAEuVaKHMER SYMBOL PATHAMASATnMUOY KOETnPII KOETnBEI",
    " KOEToUON KOETnPRAM KOETr-MUOY KOETsPII KOETsBEI KOETtUON KOETnDAP KOETq-MUOY KOETrPII KOETrBEI KOETsU",
    "ON KOETrPRAM KOETnTUTEYASATnMUOY ROCnPII ROCnBEI ROCoUON ROCnPRAM ROCr-MUOY ROCsPII ROCsBEI ROCtUON RO",
    "CnDAP ROCq-MUOY ROCrPII ROCrBEI ROCsUON ROCrPRAM ROCaBUGINESE LETTER KAqGAqNGAsKAqPAqBAqMArPAqTAqDAqNA",
    "rRAqCAqJAqNYAsCAqYAqRAqLAqVAqSAqAqHAjVOWEL SIGN IuUuEuOuAE??jPALLAWAjEND OF SECTIONaTAI THAM LETTER HI",
    "GH KAwHAwXAqLOW KAvXAvHAqNGAqHIGH CAwHAqLOW CAuSAuCHAqNYAqRATAqHIGH RATHAqDAqLOW RATHAqRANAqHIGH TAwHA",
    "qLOW TAvHAqNAqBAqHIGH PAwHAvFAqLOW PAuFAuPHAqMAqLOW YAqHIGH YAqRArUEqLArUEqWAqHIGH SHAwSAwAvHAqLLAqAqL",
    "OW HAqIrIqUrUqEEqOOqLAEqGREAT SAjCONSONANT SIGN MEDIAL RAzgLAyLA TANG LAIjSIGN MAI KANG LAIjCONSONANT ",
    "SIGN FINAL NGAyLOW PAyHIGH RATHA OR LOW PAyMAyBAySA?jSIGN SAKOTjVOWEL SIGN AuMAI SATuAAuTALL AAuIvIuUE",
    "vUEuUvUuOvA BELOWvYuEuAEuOOuAIuTHAM AIuOA ABOVEjSIGN MAI KANGoTONE-1t2oKHUEN TONE-3za4za5oRA HAAMoMAI ",
    "SAMoKHUEN-LUE KARAN??jCOMBINING CRYPTOGRAMMIC DOTjHORA DIGIT ZEROuONEuTWOvHREEuFOURvIVEuSIXvEVENuEIGHT",
    "uNINE??????jTHAM DIGIT ZEROuONEuTWOvHREEuFOURvIVEuSIXvEVENuEIGHTuNINE??????jSIGN WIANGtWAAKoSAWANoKEOW",
    "oHOYoDOKMAIoREVERSED ROTATED RANAoMAI YAMOKoKAANsKUUoSATKAANvKUUoHANGoCAANG??aCOMBINING DOUBLED CIRCUM",
    "FLEX ACCENTlIAERESIS-RINGkINFINITYkDOWNWARDS ARROWkTRIPLE DOTkX-X BELOWkWIGGLY LINE BELOWkOPEN MARK BE",
    "LOWkDOUBLE OPEN MARK BELOWkLIGHT CENTRALIZATION STROKE BELOWkSTRONG CENTRALIZATION STROKE BELOWkPARENT",
    "HESES ABOVEkDOUBLE PARENTHESES ABOVEkPARENTHESES BELOWwOVERLAYkLATIN SMALL LETTER W BELOWzeTURNED W BE",
    "LOWlEFT PARENTHESIS ABOVE LEFTkRIGHT PARENTHESIS ABOVE RIGHTkLEFT PARENTHESIS BELOW LEFTkRIGHT PARENTH",
    "ESIS BELOW RIGHTkSQUARE BRACKETS ABOVEkNUMBER SIGN ABOVEkINVERTED DOUBLE ARCH ABOVEkPLUS SIGN ABOVEkDO",
    "UBLE PLUS SIGN ABOVEzcBELOWkTRIPLE ACUTE ACCENTkLATIN SMALL LETTER INSULAR GzmRzmT"]),
  (0x1B00, ["aBALINESE SIGN ULU RICEMsCANDRAoCECEKoSURANGoBISAHjLETTER AKARAv TEDUNGqIKARAv TEDUNGqUKARAv T",
    "EDUNGqRA REPAx TEDUNGqLA LENGAy TEDUNGqEKARAqAIKARAqOKARAv TEDUNGqKAs MAHAPRANAqGAs GORAqNGAqCAs LACAq",
    "JAs JERAqNYAqTA LATIKtMURDA MAHAPRANAqDA MURDA ALPAPRANAzaMAHAPRANAqNA RAMBATqTAs TAWAqDAs MADUqNAqPAs",
    " KAPALqBAs KEMBANGqMAqYAqRAqLAqWAqSA SAGAvPArAqHAjSIGN REREKANjVOWEL SIGN TEDUNGuULUx SARIuSUKUy ILUTu",
    "RA REPAzc TEDUNGuLA LENGAzd TEDUNGuTALINGzb REPAzcTEDUNGzcREPA TEDUNGuPEPETza TEDUNGjADEG ADEGjLETTER ",
    "KAF SASAKrHOT SASAKqTZIR SASAKqEF SASAKqVE SASAKqZAL SASAKqASYURA SASAKrRCHAIC JNYA???jDIGIT ZEROpONEp",
    "TWOqHREEpFOURqIVEpSIXqEVENpEIGHTpNINEjPANTIlMADAjWINDUjCARIK PAMUNGKAHpSIKIpPARERENjPAMENENGjMUSICAL S",
    "YMBOL DONGzaENGzaUNGzaANGzd SURANGzaINGzaAENGzaEUNGzaAINGzbNG GEDEyCOMBINING TEGEHzjENDEPzjKEMPULznLIz",
    "jJEGOGANzjKEMPUL WITH JEGOGANznLI WITH JEGOGANzjBENDEzjGONGyRIGHT-HAND OPEN DUGzqAGzkCLOSED TUKzsAKyLE",
    "FT-HAND OPEN PANGzpUNGzjCLOSED PLAKzsUKzjOPEN PINGjPANTI LANTANGlMADA LANTANG?aSUNDANESE SIGN PANYECEK",
    "sGLAYARtWISADkLETTER ArIrUrAErOrEsUrKArQArGArNGArCArJArZArNYArTArDArNArPArFArVArBArMArYArRArLArWArSArX",
    "ArHAkCONSONANT SIGN PAMINGKALzcNYAKRAzeIKUkVOWEL SIGN PANGHULUyYUKUyAELAENGyOLONGxMEPETxNEULEUNGkSIGN ",
    "PAMAAEHpVIRAMAkCONSONANT SIGN PASANGAN MAzjWAkLETTER KHArSYAkDIGIT ZEROqONEqTWOrHREEqFOURrIVEqSIXrEVEN",
    "qEIGHTqNINEkAVAGRAHAkLETTER REUrLEUrBHArFINAL KxMaBATAK LETTER AnSIMALUNGUN AnHAnSIMALUNGUN HAnMANDAIL",
    "ING HAnBAnKARO BAnPAnSIMALUNGUN PAnNAnMANDAILING NAnWAnSIMALUNGUN WAnPAKPAK WAnGAnSIMALUNGUN GAnJAnDAn",
    "RAnSIMALUNGUN RAnMAnSIMALUNGUN MAoOUTHERN TAnNORTHERN TAnSAoIMALUNGUN SAnMANDAILING SAnYAnSIMALUNGUN Y",
    "AnNGAnLAnSIMALUNGUN LAnNYAnCAnNDAnMBAnInUgSIGN TOMPIgVOWEL SIGN ErPAKPAK ErEErIrKARO IrOrKARO OrUs FOR",
    " SIMALUNGUN SAgCONSONANT SIGN NGvHgPANGOLATjONGONAN"]),
  (0x1BFC, ["aBATAK SYMBOL BINDU NA METEKtPINARBORAStJUDULtPANGOLATaLEPCHA LETTER KApLApHAoGApLAoNGAoCApHAo",
    "JAoNYAoTApHAoDAoNAoPApLApHAoFApLAoBApLAoMApLAoTSAqHAoDZAoYAoRAoLAoHApLAoVAoSApHAoWAoAhSUBJOINED LETTER",
    " YAyRAhVOWEL SIGN AAsIsOtOsUtUsEhCONSONANT SIGN KwMwLwNwPwRwTwNYIN-DOwKANGhSIGN RANmNUKTA???hPUNCTUATI",
    "ON TA-ROLtNYET THYOOM TA-ROLtCER-WAtTSHOOK CER-WAyKhDIGIT ZEROnONEnTWOoHREEnFOURoIVEnSIXoEVENnEIGHTnNI",
    "NE???hLETTER TTAqHAoDDAaOL CHIKI DIGIT ZEROpONEpTWOqHREEpFOURqIVEpSIXqEVENpEIGHTpNINEjLETTER LAqATrGrN",
    "GrLqLAAqAAKsJsMsWqLIqISrHrNYrRqLUqUCrDrNNrYqLEqEPrDDrNrRRqLOqOTTrBrVrHjMU TTUDDAGjGAAHLAA TTUDDAAGjMU-",
    "GAAHLAA TTUDDAAGjRELAAjPHAARKAAjAHADjPUNCTUATION MUCAADvDOUBLE MUCAADaCYRILLIC SMALL LETTER ROUNDED VE",
    "wLONG-LEGGED DEwNARROW OwWIDE ESwTALL TExHREE-LEGGED TExALL HARD SIGNzcYATwUNBLENDED UK???????aGEORGIA",
    "N MTAVRULI CAPITAL LETTER ANziBANziGANziDONziENziVINziZENziTANziINziKANziLASziMANziNARziONziPARziZHARz",
    "iRAEziSANziTARziUNziPHARziKHARziGHANziQARziSHINziCHINzjANziJILziCILzjHARziXANziJHANziHAEzjEzjIEziWEziH",
    "ARzjOEziFIziYNziELIFIziTURNED GANziAIN??zjENziHARD SIGNziLABIAL SIGNaSUNDANESE PUNCTUATION BINDU SURYA",
    "zdPANGLONGzeURNAMAzdCAKRAzdLEU SATANGAzdKA SATANGAzdDA SATANGAzdBA SATANGA"]),
  (0x1CD0, ["aVEDIC TONE KARSHANAlSHARAlPRENKHAgSIGN NIHSHVASAlYAJURVEDIC MIDLINE SVARITAgTONE YAJURVEDIC A",
    "GGRAVATED INDEPENDENT SVARITAwINDEPENDENT SVARITAwKATHAKA INDEPENDENT SVARITAlCANDRA BELOWlYAJURVEDIC ",
    "KATHAKA INDEPENDENT SVARITA SCHROEDERlDOUBLE SVARITAlTRIPLE SVARITAlKATHAKA ANUDATTAlDOT BELOWlTWO DOT",
    "S BELOWmHREE DOTS BELOWlRIGVEDIC KASHMIRI INDEPENDENT SVARITAlATHARVAVEDIC INDEPENDENT SVARITAgSIGN VI",
    "SARGA SVARITAtUDATTAlREVERSED VISARGA UDATTAlVISARGA ANUDATTAlREVERSED VISARGA ANUDATTAlVISARGA UDATTA",
    " WITH TAILtANUDATTA WITH TAILlANUSVARA ANTARGOMUKHAuBAHIRGOMUKHAuVAMAGOMUKHAzg WITH TAILlTIRYAKlHEXIFO",
    "RM LONG ANUSVARAlLONG ANUSVARAlRTHANG LONG ANUSVARAlANUSVARA UBHAYATO MUKHAmRDHAVISARGAlROTATED ARDHAV",
    "ISARGAgTONE CANDRA ABOVEgSIGN JIHVAMULIYAlUPADHMANIYAlATIKRAMAgTONE RING ABOVElDOUBLE RING ABOVEgSIGN ",
    "DOUBLE ANUSVARA ANTARGOMUKHA?????aLATIN LETTER SMALL CAPITAL AzdEgSMALL LETTER TURNED AEgLETTER SMALL ",
    "CAPITAL BARRED BzcCzcDzcETHzcEgSMALL LETTER TURNED OPEN EzbIgLETTER SMALL CAPITAL JzcKzcL WITH STROKEz",
    "cMzcREVERSED NzcOzdPEN OgSMALL LETTER SIDEWAYS OzePEN Oze WITH STROKEtTURNED OEgLETTER SMALL CAPITAL O",
    "UgSMALL LETTER TOP HALF OtBOTTOM HALF OgLETTER SMALL CAPITAL PzcREVERSED RzcTURNED RzcTzcUgSMALL LETTE",
    "R SIDEWAYS UzdDIAERESIZED UzdTURNED MgLETTER SMALL CAPITAL VzcWzcZzcEZHnVOICED LARYNGEAL SPIRANTnAINaG",
    "REEK LETTER SMALL CAPITAL GAMMAzcLAMDAzcPIzcRHOzcPSIaCYRILLIC LETTER SMALL CAPITAL ELaMODIFIER LETTER ",
    "CAPITAL AzaEyBzaARRED ByDyEyREVERSED EyGyHyIyJyKyLyMyNyREVERSED NyOzaUyPyRyTyUyWqSMALL AwTURNED AwALPH",
    "AwTURNED AEwBwDwEwSCHWAwOPEN EwTURNED OPEN EwGwTURNED IwKwMwENGwOxPEN OwTOP HALF OwBOTTOM HALF OwPwTwU",
    "wSIDEWAYS UwTURNED MwVwAINwBETAwGREEK GAMMAwDELTAwGREEK PHIwCHIaLATIN SUBSCRIPT SMALL LETTER IzeRzeUze",
    "VaGREEK SUBSCRIPT SMALL LETTER BETAzeGAMMAzeRHOzePHIzeCHIaLATIN SMALL LETTER UEtB WITH MIDDLE TILDEtD ",
    "WITH MIDDLE TILDEtF WITH MIDDLE TILDEtM WITH MIDDLE TILDEtN WITH MIDDLE TILDEtP WITH MIDDLE TILDEtR WI",
    "TH MIDDLE TILDEzbFISHHOOK AND MIDDLE TILDEtS WITH MIDDLE TILDEtT WITH MIDDLE TILDEtZ WITH MIDDLE TILDE",
    "tTURNED GaMODIFIER LETTER CYRILLIC ENaLATIN SMALL LETTER INSULAR GtTH WITH STRIKETHROUGHmCAPITAL LETTE",
    "R I WITH STROKEmLETTER IOTA WITH STROKEtP WITH STROKEmCAPITAL LETTER U WITH STROKEmLETTER UPSILON WITH",
    " STROKEtB WITH PALATAL HOOKtD WITH PALATAL HOOKtF WITH PALATAL HOOKtG WITH PALATAL HOOKtK WITH PALATAL",
    " HOOKtL WITH PALATAL HOOKtM WITH PALATAL HOOKtN WITH PALATAL HOOKtP WITH PALATAL HOOKtR WITH PALATAL H",
    "OOKtS WITH PALATAL HOOKtESH WITH PALATAL HOOKtV WITH PALATAL HOOKtX WITH PALATAL HOOKtZ WITH PALATAL H",
    "OOKtA WITH RETROFLEX HOOKuLPHA WITH RETROFLEX HOOKtD WITH HOOK AND TAILtE WITH RETROFLEX HOOKtOPEN E W",
    "ITH RETROFLEX HOOKtREVERSED OPEN E WITH RETROFLEX HOOKtSCHWA WITH RETROFLEX HOOKtI WITH RETROFLEX HOOK",
    "tOPEN O WITH RETROFLEX HOOKtESH WITH RETROFLEX HOOKtU WITH RETROFLEX HOOKtEZH WITH RETROFLEX HOOKaMODI",
    "FIER LETTER SMALL TURNED ALPHAwCx WITH CURLwETHwREVERSED OPEN EwFwDOTLESS J WITH STROKEwSCRIPT GwTURNE",
    "D HwI WITH STROKExOTAwCAPITAL Izg WITH STROKEwJ WITH CROSSED-TAILwL WITH RETROFLEX HOOKzePALATAL HOOKw",
    "CAPITAL LwM WITH HOOKwTURNED M WITH LONG LEGwN WITH LEFT HOOKzeRETROFLEX HOOKwCAPITAL NwBARRED OwPHIwS",
    " WITH HOOKwESHwT WITH PALATAL HOOKwU BARxPSILONwCAPITAL UwV WITH HOOKwTURNED VwZx WITH RETROFLEX HOOKz",
    "eCURLwEZHwTHETAaCOMBINING DOTTED GRAVE ACCENTrACUTE ACCENTkSNAKE BELOWlUSPENSION MARKkMACRON-ACUTEkGRA",
    "VE-MACRONkMACRON-GRAVEkACUTE-MACRONkGRAVE-ACUTE-GRAVEkACUTE-GRAVE-ACUTEkLATIN SMALL LETTER R BELOWkBRE",
    "VE-MACRONkMACRON-BREVEkDOUBLE CIRCUMFLEX ABOVEkOGONEK ABOVEkZIGZAG BELOWkIS BELOWkUR ABOVElS ABOVEkLAT",
    "IN SMALL LETTER FLATTENED OPEN A ABOVEzeAEzfOzfVzeC CEDILLAzeINSULAR DzeETHzeGqLETTER SMALL CAPITAL Gq",
    "SMALL LETTER KzeLqLETTER SMALL CAPITAL LzmMqSMALL LETTER NqLETTER SMALL CAPITAL NzmRqSMALL LETTER R RO",
    "TUNDAzeSzeLONG SzeZzeALPHAzeBzfETAzeSCHWAzeFzeL WITH DOUBLE MIDDLE TILDEzeO WITH LIGHT CENTRALIZATION ",
    "STROKEzePzeESHzeU WITH LIGHT CENTRALIZATION STROKEzeWzeA WITH DIAERESISzeO WITH DIAERESISzeU WITH DIAE",
    "RESISkUP TACK ABOVEkKAVYKA ABOVE RIGHTxLEFTkDOT ABOVE LEFTkWIDE INVERTED BRIDGE BELOWkDOT BELOW LEFTlE",
    "LETION MARKlOUBLE INVERTED BREVE BELOWkALMOST EQUAL TO BELOWkLEFT ARROWHEAD ABOVEkRIGHT ARROWHEAD AND ",
    "DOWN ARROWHEAD BELOWaLATIN CAPITAL LETTER A WITH RING BELOWgSMALL LETTER A WITH RING BELOWgCAPITAL LET",
    "TER B WITH DOT ABOVEgSMALL LETTER B WITH DOT ABOVEgCAPITAL LETTER B WITH DOT BELOWgSMALL LETTER B WITH",
    " DOT BELOWgCAPITAL LETTER B WITH LINE BELOWgSMALL LETTER B WITH LINE BELOWgCAPITAL LETTER C WITH CEDIL",
    "LA AND ACUTEgSMALL LETTER C WITH CEDILLA AND ACUTEgCAPITAL LETTER D WITH DOT ABOVEgSMALL LETTER D WITH",
    " DOT ABOVEgCAPITAL LETTER D WITH DOT BELOWgSMALL LETTER D WITH DOT BELOWgCAPITAL LETTER D WITH LINE BE",
    "LOWgSMALL LETTER D WITH LINE BELOWgCAPITAL LETTER D WITH CEDILLAgSMALL LETTER D WITH CEDILLAgCAPITAL L",
    "ETTER D WITH CIRCUMFLEX BELOWgSMALL LETTER D WITH CIRCUMFLEX BELOWgCAPITAL LETTER E WITH MACRON AND GR",
    "AVEgSMALL LETTER E WITH MACRON AND GRAVEgCAPITAL LETTER E WITH MACRON AND ACUTEgSMALL LETTER E WITH MA",
    "CRON AND ACUTEgCAPITAL LETTER E WITH CIRCUMFLEX BELOWgSMALL LETTER E WITH CIRCUMFLEX BELOWgCAPITAL LET",
    "TER E WITH TILDE BELOWgSMALL LETTER E WITH TILDE BELOWgCAPITAL LETTER E WITH CEDILLA AND BREVEgSMALL L",
    "ETTER E WITH CEDILLA AND BREVEgCAPITAL LETTER F WITH DOT ABOVEgSMALL LETTER F WITH DOT ABOVEgCAPITAL L",
    "ETTER G WITH MACRONgSMALL LETTER G WITH MACRONgCAPITAL LETTER H WITH DOT ABOVEgSMALL LETTER H WITH DOT",
    " ABOVEgCAPITAL LETTER H WITH DOT BELOWgSMALL LETTER H WITH DOT BELOWgCAPITAL LETTER H WITH DIAERESISgS",
    "MALL LETTER H WITH DIAERESISgCAPITAL LETTER H WITH CEDILLAgSMALL LETTER H WITH CEDILLAgCAPITAL LETTER ",
    "H WITH BREVE BELOWgSMALL LETTER H WITH BREVE BELOWgCAPITAL LETTER I WITH TILDE BELOWgSMALL LETTER I WI",
    "TH TILDE BELOWgCAPITAL LETTER I WITH DIAERESIS AND ACUTEgSMALL LETTER I WITH DIAERESIS AND ACUTEgCAPIT",
    "AL LETTER K WITH ACUTEgSMALL LETTER K WITH ACUTEgCAPITAL LETTER K WITH DOT BELOWgSMALL LETTER K WITH D",
    "OT BELOWgCAPITAL LETTER K WITH LINE BELOWgSMALL LETTER K WITH LINE BELOWgCAPITAL LETTER L WITH DOT BEL",
    "OWgSMALL LETTER L WITH DOT BELOWgCAPITAL LETTER L WITH DOT BELOW AND MACRONgSMALL LETTER L WITH DOT BE",
    "LOW AND MACRONgCAPITAL LETTER L WITH LINE BELOWgSMALL LETTER L WITH LINE BELOWgCAPITAL LETTER L WITH C",
    "IRCUMFLEX BELOWgSMALL LETTER L WITH CIRCUMFLEX BELOWgCAPITAL LETTER M WITH ACUTEgSMALL LETTER M WITH A",
    "CUTEgCAPITAL LETTER M WITH DOT ABOVEgSMALL LETTER M WITH DOT ABOVEgCAPITAL LETTER M WITH DOT BELOWgSMA",
    "LL LETTER M WITH DOT BELOWgCAPITAL LETTER N WITH DOT ABOVEgSMALL LETTER N WITH DOT ABOVEgCAPITAL LETTE",
    "R N WITH DOT BELOWgSMALL LETTER N WITH DOT BELOWgCAPITAL LETTER N WITH LINE BELOWgSMALL LETTER N WITH ",
    "LINE BELOWgCAPITAL LETTER N WITH CIRCUMFLEX BELOWgSMALL LETTER N WITH CIRCUMFLEX BELOWgCAPITAL LETTER ",
    "O WITH TILDE AND ACUTEgSMALL LETTER O WITH TILDE AND ACUTEgCAPITAL LETTER O WITH TILDE AND DIAERESISgS",
    "MALL LETTER O WITH TILDE AND DIAERESISgCAPITAL LETTER O WITH MACRON AND GRAVEgSMALL LETTER O WITH MACR",
    "ON AND GRAVEgCAPITAL LETTER O WITH MACRON AND ACUTEgSMALL LETTER O WITH MACRON AND ACUTEgCAPITAL LETTE",
    "R P WITH ACUTEgSMALL LETTER P WITH ACUTEgCAPITAL LETTER P WITH DOT ABOVEgSMALL LETTER P WITH DOT ABOVE",
    "gCAPITAL LETTER R WITH DOT ABOVEgSMALL LETTER R WITH DOT ABOVEgCAPITAL LETTER R WITH DOT BELOWgSMALL L",
    "ETTER R WITH DOT BELOWgCAPITAL LETTER R WITH DOT BELOW AND MACRONgSMALL LETTER R WITH DOT BELOW AND MA",
    "CRONgCAPITAL LETTER R WITH LINE BELOWgSMALL LETTER R WITH LINE BELOWgCAPITAL LETTER S WITH DOT ABOVEgS",
    "MALL LETTER S WITH DOT ABOVEgCAPITAL LETTER S WITH DOT BELOWgSMALL LETTER S WITH DOT BELOWgCAPITAL LET",
    "TER S WITH ACUTE AND DOT ABOVEgSMALL LETTER S WITH ACUTE AND DOT ABOVEgCAPITAL LETTER S WITH CARON AND",
    " DOT ABOVEgSMALL LETTER S WITH CARON AND DOT ABOVEgCAPITAL LETTER S WITH DOT BELOW AND DOT ABOVEgSMALL",
    " LETTER S WITH DOT BELOW AND DOT ABOVEgCAPITAL LETTER T WITH DOT ABOVEgSMALL LETTER T WITH DOT ABOVEgC",
    "APITAL LETTER T WITH DOT BELOWgSMALL LETTER T WITH DOT BELOWgCAPITAL LETTER T WITH LINE BELOWgSMALL LE",
    "TTER T WITH LINE BELOWgCAPITAL LETTER T WITH CIRCUMFLEX BELOWgSMALL LETTER T WITH CIRCUMFLEX BELOWgCAP",
    "ITAL LETTER U WITH DIAERESIS BELOWgSMALL LETTER U WITH DIAERESIS BELOWgCAPITAL LETTER U WITH TILDE BEL",
    "OWgSMALL LETTER U WITH TILDE BELOWgCAPITAL LETTER U WITH CIRCUMFLEX BELOWgSMALL LETTER U WITH CIRCUMFL",
    "EX BELOWgCAPITAL LETTER U WITH TILDE AND ACUTEgSMALL LETTER U WITH TILDE AND ACUTEgCAPITAL LETTER U WI",
    "TH MACRON AND DIAERESISgSMALL LETTER U WITH MACRON AND DIAERESISgCAPITAL LETTER V WITH TILDEgSMALL LET",
    "TER V WITH TILDEgCAPITAL LETTER V WITH DOT BELOWgSMALL LETTER V WITH DOT BELOWgCAPITAL LETTER W WITH G",
    "RAVEgSMALL LETTER W WITH GRAVEgCAPITAL LETTER W WITH ACUTEgSMALL LETTER W WITH ACUTEgCAPITAL LETTER W ",
    "WITH DIAERESISgSMALL LETTER W WITH DIAERESISgCAPITAL LETTER W WITH DOT ABOVEgSMALL LETTER W WITH DOT A",
    "BOVEgCAPITAL LETTER W WITH DOT BELOWgSMALL LETTER W WITH DOT BELOWgCAPITAL LETTER X WITH DOT ABOVEgSMA",
    "LL LETTER X WITH DOT ABOVEgCAPITAL LETTER X WITH DIAERESISgSMALL LETTER X WITH DIAERESISgCAPITAL LETTE",
    "R Y WITH DOT ABOVEgSMALL LETTER Y WITH DOT ABOVEgCAPITAL LETTER Z WITH CIRCUMFLEXgSMALL LETTER Z WITH ",
    "CIRCUMFLEXgCAPITAL LETTER Z WITH DOT BELOWgSMALL LETTER Z WITH DOT BELOWgCAPITAL LETTER Z WITH LINE BE",
    "LOWgSMALL LETTER Z WITH LINE BELOWtH WITH LINE BELOWtT WITH DIAERESIStW WITH RING ABOVEtY WITH RING AB",
    "OVEtA WITH RIGHT HALF RINGtLONG S WITH DOT ABOVEzhIAGONAL STROKEzgHIGH STROKEgCAPITAL LETTER SHARP SgS",
    "MALL LETTER DELTAgCAPITAL LETTER A WITH DOT BELOWgSMALL LETTER A WITH DOT BELOWgCAPITAL LETTER A WITH ",
    "HOOK ABOVEgSMALL LETTER A WITH HOOK ABOVEgCAPITAL LETTER A WITH CIRCUMFLEX AND ACUTEgSMALL LETTER A WI",
    "TH CIRCUMFLEX AND ACUTEgCAPITAL LETTER A WITH CIRCUMFLEX AND GRAVEgSMALL LETTER A WITH CIRCUMFLEX AND ",
    "GRAVEgCAPITAL LETTER A WITH CIRCUMFLEX AND HOOK ABOVEgSMALL LETTER A WITH CIRCUMFLEX AND HOOK ABOVEgCA",
    "PITAL LETTER A WITH CIRCUMFLEX AND TILDEgSMALL LETTER A WITH CIRCUMFLEX AND TILDEgCAPITAL LETTER A WIT",
    "H CIRCUMFLEX AND DOT BELOWgSMALL LETTER A WITH CIRCUMFLEX AND DOT BELOWgCAPITAL LETTER A WITH BREVE AN",
    "D ACUTEgSMALL LETTER A WITH BREVE AND ACUTEgCAPITAL LETTER A WITH BREVE AND GRAVEgSMALL LETTER A WITH ",
    "BREVE AND GRAVEgCAPITAL LETTER A WITH BREVE AND HOOK ABOVEgSMALL LETTER A WITH BREVE AND HOOK ABOVEgCA",
    "PITAL LETTER A WITH BREVE AND TILDEgSMALL LETTER A WITH BREVE AND TILDEgCAPITAL LETTER A WITH BREVE AN",
    "D DOT BELOWgSMALL LETTER A WITH BREVE AND DOT BELOWgCAPITAL LETTER E WITH DOT BELOWgSMALL LETTER E WIT",
    "H DOT BELOWgCAPITAL LETTER E WITH HOOK ABOVEgSMALL LETTER E WITH HOOK ABOVEgCAPITAL LETTER E WITH TILD",
    "EgSMALL LETTER E WITH TILDEgCAPITAL LETTER E WITH CIRCUMFLEX AND ACUTEgSMALL LETTER E WITH CIRCUMFLEX ",
    "AND ACUTEgCAPITAL LETTER E WITH CIRCUMFLEX AND GRAVEgSMALL LETTER E WITH CIRCUMFLEX AND GRAVEgCAPITAL ",
    "LETTER E WITH CIRCUMFLEX AND HOOK ABOVEgSMALL LETTER E WITH CIRCUMFLEX AND HOOK ABOVEgCAPITAL LETTER E",
    " WITH CIRCUMFLEX AND TILDEgSMALL LETTER E WITH CIRCUMFLEX AND TILDEgCAPITAL LETTER E WITH CIRCUMFLEX A",
    "ND DOT BELOWgSMALL LETTER E WITH CIRCUMFLEX AND DOT BELOWgCAPITAL LETTER I WITH HOOK ABOVEgSMALL LETTE",
    "R I WITH HOOK ABOVEgCAPITAL LETTER I WITH DOT BELOWgSMALL LETTER I WITH DOT BELOWgCAPITAL LETTER O WIT",
    "H DOT BELOWgSMALL LETTER O WITH DOT BELOWgCAPITAL LETTER O WITH HOOK ABOVEgSMALL LETTER O WITH HOOK AB",
    "OVEgCAPITAL LETTER O WITH CIRCUMFLEX AND ACUTEgSMALL LETTER O WITH CIRCUMFLEX AND ACUTEgCAPITAL LETTER",
    " O WITH CIRCUMFLEX AND GRAVEgSMALL LETTER O WITH CIRCUMFLEX AND GRAVEgCAPITAL LETTER O WITH CIRCUMFLEX",
    " AND HOOK ABOVEgSMALL LETTER O WITH CIRCUMFLEX AND HOOK ABOVEgCAPITAL LETTER O WITH CIRCUMFLEX AND TIL",
    "DEgSMALL LETTER O WITH CIRCUMFLEX AND TILDEgCAPITAL LETTER O WITH CIRCUMFLEX AND DOT BELOWgSMALL LETTE",
    "R O WITH CIRCUMFLEX AND DOT BELOWgCAPITAL LETTER O WITH HORN AND ACUTEgSMALL LETTER O WITH HORN AND AC",
    "UTEgCAPITAL LETTER O WITH HORN AND GRAVEgSMALL LETTER O WITH HORN AND GRAVEgCAPITAL LETTER O WITH HORN",
    " AND HOOK ABOVEgSMALL LETTER O WITH HORN AND HOOK ABOVEgCAPITAL LETTER O WITH HORN AND TILDEgSMALL LET",
    "TER O WITH HORN AND TILDEgCAPITAL LETTER O WITH HORN AND DOT BELOWgSMALL LETTER O WITH HORN AND DOT BE",
    "LOWgCAPITAL LETTER U WITH DOT BELOWgSMALL LETTER U WITH DOT BELOWgCAPITAL LETTER U WITH HOOK ABOVEgSMA",
    "LL LETTER U WITH HOOK ABOVEgCAPITAL LETTER U WITH HORN AND ACUTEgSMALL LETTER U WITH HORN AND ACUTEgCA",
    "PITAL LETTER U WITH HORN AND GRAVEgSMALL LETTER U WITH HORN AND GRAVEgCAPITAL LETTER U WITH HORN AND H",
    "OOK ABOVEgSMALL LETTER U WITH HORN AND HOOK ABOVEgCAPITAL LETTER U WITH HORN AND TILDEgSMALL LETTER U ",
    "WITH HORN AND TILDEgCAPITAL LETTER U WITH HORN AND DOT BELOWgSMALL LETTER U WITH HORN AND DOT BELOWgCA",
    "PITAL LETTER Y WITH GRAVEgSMALL LETTER Y WITH GRAVEgCAPITAL LETTER Y WITH DOT BELOWgSMALL LETTER Y WIT",
    "H DOT BELOWgCAPITAL LETTER Y WITH HOOK ABOVEgSMALL LETTER Y WITH HOOK ABOVEgCAPITAL LETTER Y WITH TILD",
    "EgSMALL LETTER Y WITH TILDEgCAPITAL LETTER MIDDLE-WELSH LLgSMALL LETTER MIDDLE-WELSH LLgCAPITAL LETTER",
    " MIDDLE-WELSH VgSMALL LETTER MIDDLE-WELSH VgCAPITAL LETTER Y WITH LOOPgSMALL LETTER Y WITH LOOPaGREEK ",
    "SMALL LETTER ALPHA WITH PSILIzfDASIAzfPSILI AND VARIAzfDASIA AND VARIAzfPSILI AND OXIAzfDASIA AND OXIA",
    "zfPSILI AND PERISPOMENIzfDASIA AND PERISPOMENIgCAPITAL LETTER ALPHA WITH PSILIzhDASIAzhPSILI AND VARIA",
    "zhDASIA AND VARIAzhPSILI AND OXIAzhDASIA AND OXIAzhPSILI AND PERISPOMENIzhDASIA AND PERISPOMENIgSMALL ",
    "LETTER EPSILON WITH PSILIzhDASIAzhPSILI AND VARIAzhDASIA AND VARIAzhPSILI AND OXIAzhDASIA AND OXIA??gC",
    "APITAL LETTER EPSILON WITH PSILIzjDASIAzjPSILI AND VARIAzjDASIA AND VARIAzjPSILI AND OXIAzjDASIA AND O",
    "XIA??gSMALL LETTER ETA WITH PSILIzdDASIAzdPSILI AND VARIAzdDASIA AND VARIAzdPSILI AND OXIAzdDASIA AND ",
    "OXIAzdPSILI AND PERISPOMENIzdDASIA AND PERISPOMENIgCAPITAL LETTER ETA WITH PSILIzfDASIAzfPSILI AND VAR",
    "IAzfDASIA AND VARIAzfPSILI AND OXIAzfDASIA AND OXIAzfPSILI AND PERISPOMENIzfDASIA AND PERISPOMENIgSMAL",
    "L LETTER IOTA WITH PSILIzeDASIAzePSILI AND VARIAzeDASIA AND VARIAzePSILI AND OXIAzeDASIA AND OXIAzePSI",
    "LI AND PERISPOMENIzeDASIA AND PERISPOMENIgCAPITAL LETTER IOTA WITH PSILIzgDASIAzgPSILI AND VARIAzgDASI",
    "A AND VARIAzgPSILI AND OXIAzgDASIA AND OXIAzgPSILI AND PERISPOMENIzgDASIA AND PERISPOMENIgSMALL LETTER",
    " OMICRON WITH PSILIzhDASIAzhPSILI AND VARIAzhDASIA AND VARIAzhPSILI AND OXIAzhDASIA AND OXIA??gCAPITAL",
    " LETTER OMICRON WITH PSILIzjDASIAzjPSILI AND VARIAzjDASIA AND VARIAzjPSILI AND OXIAzjDASIA AND OXIA??g",
    "SMALL LETTER UPSILON WITH PSILIzhDASIAzhPSILI AND VARIAzhDASIA AND VARIAzhPSILI AND OXIAzhDASIA AND OX",
    "IAzhPSILI AND PERISPOMENIzhDASIA AND PERISPOMENI?gCAPITAL LETTER UPSILON WITH DASIA?zo AND VARIA?ztOXI",
    "A?ztPERISPOMENIgSMALL LETTER OMEGA WITH PSILIzfDASIAzfPSILI AND VARIAzfDASIA AND VARIAzfPSILI AND OXIA",
    "zfDASIA AND OXIAzfPSILI AND PERISPOMENIzfDASIA AND PERISPOMENIgCAPITAL LETTER OMEGA WITH PSILIzhDASIAz",
    "hPSILI AND VARIAzhDASIA AND VARIAzhPSILI AND OXIAzhDASIA AND OXIAzhPSILI AND PERISPOMENIzhDASIA AND PE",
    "RISPOMENIgSMALL LETTER ALPHA WITH VARIAzfOXIAtEPSILON WITH VARIAzhOXIAuTA WITH VARIAzdOXIAtIOTA WITH V",
    "ARIAzeOXIAtOMICRON WITH VARIAzhOXIAtUPSILON WITH VARIAzhOXIAtOMEGA WITH VARIAzfOXIA??tALPHA WITH PSILI",
    " AND YPOGEGRAMMENIzfDASIA AND YPOGEGRAMMENIzfPSILI AND VARIA AND YPOGEGRAMMENIzfDASIA AND VARIA AND YP",
    "OGEGRAMMENIzfPSILI AND OXIA AND YPOGEGRAMMENIzfDASIA AND OXIA AND YPOGEGRAMMENIzfPSILI AND PERISPOMENI",
    " AND YPOGEGRAMMENIzfDASIA AND PERISPOMENI AND YPOGEGRAMMENIgCAPITAL LETTER ALPHA WITH PSILI AND PROSGE",
    "GRAMMENIzhDASIA AND PROSGEGRAMMENIzhPSILI AND VARIA AND PROSGEGRAMMENIzhDASIA AND VARIA AND PROSGEGRAM",
    "MENIzhPSILI AND OXIA AND PROSGEGRAMMENIzhDASIA AND OXIA AND PROSGEGRAMMENIzhPSILI AND PERISPOMENI AND ",
    "PROSGEGRAMMENIzhDASIA AND PERISPOMENI AND PROSGEGRAMMENIgSMALL LETTER ETA WITH PSILI AND YPOGEGRAMMENI",
    "zdDASIA AND YPOGEGRAMMENIzdPSILI AND VARIA AND YPOGEGRAMMENIzdDASIA AND VARIA AND YPOGEGRAMMENIzdPSILI",
    " AND OXIA AND YPOGEGRAMMENIzdDASIA AND OXIA AND YPOGEGRAMMENIzdPSILI AND PERISPOMENI AND YPOGEGRAMMENI",
    "zdDASIA AND PERISPOMENI AND YPOGEGRAMMENIgCAPITAL LETTER ETA WITH PSILI AND PROSGEGRAMMENIzfDASIA AND ",
    "PROSGEGRAMMENIzfPSILI AND VARIA AND PROSGEGRAMMENIzfDASIA AND VARIA AND PROSGEGRAMMENIzfPSILI AND OXIA",
    " AND PROSGEGRAMMENIzfDASIA AND OXIA AND PROSGEGRAMMENIzfPSILI AND PERISPOMENI AND PROSGEGRAMMENIzfDASI",
    "A AND PERISPOMENI AND PROSGEGRAMMENIgSMALL LETTER OMEGA WITH PSILI AND YPOGEGRAMMENIzfDASIA AND YPOGEG",
    "RAMMENIzfPSILI AND VARIA AND YPOGEGRAMMENIzfDASIA AND VARIA AND YPOGEGRAMMENIzfPSILI AND OXIA AND YPOG",
    "EGRAMMENIzfDASIA AND OXIA AND YPOGEGRAMMENIzfPSILI AND PERISPOMENI AND YPOGEGRAMMENIzfDASIA AND PERISP",
    "OMENI AND YPOGEGRAMMENIgCAPITAL LETTER OMEGA WITH PSILI AND PROSGEGRAMMENIzhDASIA AND PROSGEGRAMMENIzh",
    "PSILI AND VARIA AND PROSGEGRAMMENIzhDASIA AND VARIA AND PROSGEGRAMMENIzhPSILI AND OXIA AND PROSGEGRAMM",
    "ENIzhDASIA AND OXIA AND PROSGEGRAMMENIzhPSILI AND PERISPOMENI AND PROSGEGRAMMENIzhDASIA AND PERISPOMEN",
    "I AND PROSGEGRAMMENIgSMALL LETTER ALPHA WITH VRACHYzfMACRONzfVARIA AND YPOGEGRAMMENIzfYPOGEGRAMMENIzfO",
    "XIA AND YPOGEGRAMMENI?zfPERISPOMENIzq AND YPOGEGRAMMENIgCAPITAL LETTER ALPHA WITH VRACHYzhMACRONzhVARI",
    "AzhOXIAzhPROSGEGRAMMENIgKORONISgPROSGEGRAMMENIhSILIhERISPOMENIgDIALYTIKA AND PERISPOMENIgSMALL LETTER ",
    "ETA WITH VARIA AND YPOGEGRAMMENIzdYPOGEGRAMMENIzdOXIA AND YPOGEGRAMMENI?zdPERISPOMENIzo AND YPOGEGRAMM",
    "ENIgCAPITAL LETTER EPSILON WITH VARIAzjOXIAwTA WITH VARIAzfOXIAzfPROSGEGRAMMENIgPSILI AND VARIAqOXIAqP",
    "ERISPOMENIgSMALL LETTER IOTA WITH VRACHYzeMACRONzeDIALYTIKA AND VARIAzsOXIA??zePERISPOMENIzeDIALYTIKA ",
    "AND PERISPOMENIgCAPITAL LETTER IOTA WITH VRACHYzgMACRONzgVARIAzgOXIA?gDASIA AND VARIAqOXIAqPERISPOMENI",
    "gSMALL LETTER UPSILON WITH VRACHYzhMACRONzhDIALYTIKA AND VARIAzvOXIAtRHO WITH PSILIzdDASIAtUPSILON WIT",
    "H PERISPOMENIzhDIALYTIKA AND PERISPOMENIgCAPITAL LETTER UPSILON WITH VRACHYzjMACRONzjVARIAzjOXIAvRHO W",
    "ITH DASIAgDIALYTIKA AND VARIAuOXIAgVARIA??gSMALL LETTER OMEGA WITH VARIA AND YPOGEGRAMMENIzfYPOGEGRAMM",
    "ENIzfOXIA AND YPOGEGRAMMENI?zfPERISPOMENIzq AND YPOGEGRAMMENIgCAPITAL LETTER OMICRON WITH VARIAzjOXIAx",
    "EGA WITH VARIAzhOXIAzhPROSGEGRAMMENIgOXIAgDASIA?aEN QUADbM QUADbN SPACEbM SPACEaTHREE-PER-EM SPACEaFOU",
    "R-PER-EM SPACEaSIX-PER-EM SPACEaFIGURE SPACEaPUNCTUATION SPACEaTHIN SPACEaHAIR SPACEaZERO WIDTH SPACEl",
    "NON-JOINERlJOINERaLEFT-TO-RIGHT MARKaRIGHT-TO-LEFT MARKaHYPHENaNON-BREAKING HYPHENaFIGURE DASHaEN DASH",
    "bM DASHaHORIZONTAL BARaDOUBLE VERTICAL LINEhLOW LINEaLEFT SINGLE QUOTATION MARKaRIGHT SINGLE QUOTATION",
    " MARKaSINGLE LOW-9 QUOTATION MARKhHIGH-REVERSED-9 QUOTATION MARKaLEFT DOUBLE QUOTATION MARKaRIGHT DOUB",
    "LE QUOTATION MARKaDOUBLE LOW-9 QUOTATION MARKhHIGH-REVERSED-9 QUOTATION MARKbAGGERbOUBLE DAGGERaBULLET",
    "aTRIANGULAR BULLETaONE DOT LEADERaTWO DOT LEADERaHORIZONTAL ELLIPSISbYPHENATION POINTaLINE SEPARATORaP",
    "ARAGRAPH SEPARATORaLEFT-TO-RIGHT EMBEDDINGaRIGHT-TO-LEFT EMBEDDINGaPOP DIRECTIONAL FORMATTINGaLEFT-TO-",
    "RIGHT OVERRIDEaRIGHT-TO-LEFT OVERRIDEaNARROW NO-BREAK SPACEaPER MILLE SIGNeTEN THOUSAND SIGNbRIMEaDOUB",
    "LE PRIMEaTRIPLE PRIMEaREVERSED PRIMEjDOUBLE PRIMEjTRIPLE PRIMEaCARETaSINGLE LEFT-POINTING ANGLE QUOTAT",
    "ION MARKhRIGHT-POINTING ANGLE QUOTATION MARKaREFERENCE MARKaDOUBLE EXCLAMATION MARKaINTERROBANGaOVERLI",
    "NEaUNDERTIEaCHARACTER TIEbARET INSERTION POINTaASTERISMaHYPHEN BULLETaFRACTION SLASHaLEFT SQUARE BRACK",
    "ET WITH QUILLaRIGHT SQUARE BRACKET WITH QUILLaDOUBLE QUESTION MARKaQUESTION EXCLAMATION MARKaEXCLAMATI",
    "ON QUESTION MARKaTIRONIAN SIGN ETaREVERSED PILCROW SIGNaBLACK LEFTWARDS BULLETgRIGHTWARDS BULLETaLOW A",
    "STERISKaREVERSED SEMICOLONaCLOSE UPaTWO ASTERISKS ALIGNED VERTICALLYaCOMMERCIAL MINUS SIGNaSWUNG DASHa",
    "INVERTED UNDERTIEaFLOWER PUNCTUATION MARKaTHREE DOT PUNCTUATIONaQUADRUPLE PRIMEaFOUR DOT PUNCTUATIONbI",
    "VE DOT PUNCTUATIONaTWO DOT PUNCTUATIONaFOUR DOT MARKaDOTTED CROSSaTRICOLONaVERTICAL FOUR DOTSaMEDIUM M",
    "ATHEMATICAL SPACEaWORD JOINERaFUNCTION APPLICATIONaINVISIBLE TIMESkSEPARATORkPLUS?aLEFT-TO-RIGHT ISOLA",
    "TEaRIGHT-TO-LEFT ISOLATEaFIRST STRONG ISOLATEaPOP DIRECTIONAL ISOLATEaINHIBIT SYMMETRIC SWAPPINGaACTIV",
    "ATE SYMMETRIC SWAPPINGaINHIBIT ARABIC FORM SHAPINGaACTIVATE ARABIC FORM SHAPINGaNATIONAL DIGIT SHAPESb",
    "OMINAL DIGIT SHAPESaSUPERSCRIPT ZEROmLATIN SMALL LETTER I??mFOURnIVEmSIXnEVENmEIGHTmNINEmPLUS SIGNmMIN",
    "USmEQUALS SIGNmLEFT PARENTHESISmRIGHT PARENTHESISmLATIN SMALL LETTER NcBSCRIPT ZEROkONEkTWOlHREEkFOURl",
    "IVEkSIXlEVENkEIGHTkNINEkPLUS SIGNkMINUSkEQUALS SIGNkLEFT PARENTHESISkRIGHT PARENTHESIS?aLATIN SUBSCRIP",
    "T SMALL LETTER AzeEzeOzeXzeSCHWAzeHzeKzeLzeMzeNzePzeSzeT???aEURO-CURRENCY SIGNaCOLON SIGNbRUZEIRO SIGN",
    "aFRENCH FRANC SIGNaLIRA SIGNaMILL SIGNaNAIRA SIGNaPESETA SIGNaRUPEE SIGNaWON SIGNaNEW SHEQEL SIGNaDONG",
    " SIGNaEURO SIGNaKIP SIGNaTUGRIK SIGNaDRACHMA SIGNaGERMAN PENNY SIGNaPESO SIGNaGUARANI SIGNaAUSTRAL SIG",
    "NaHRYVNIA SIGNaCEDI SIGNaLIVRE TOURNOIS SIGNaSPESMILO SIGNaTENGE SIGNaINDIAN RUPEE SIGNaTURKISH LIRA S",
    "IGNaNORDIC MARK SIGNaMANAT SIGNaRUBLE SIGNaLARI SIGNaBITCOIN SIGNaSOM SIGN"])]

end CharacterName

end Text

end CodeBehind
