import CodeBehind.Text.CharacterName.Block

/-!
# Character names: the later scripts

The names of the scripts from the ideographic signs to the end of the first plane.

## Main definitions

* `syllables`: The blocks.
-/

namespace CodeBehind

namespace Text

namespace CharacterName

/-- The blocks of the later scripts. -/
def syllables : List Block := [
  (0x31F0, ["aKATAKANA LETTER SMALL KUwSIxUwTOwNUwHAxIxUxExOwMUwRAxIxUxExOaPARENTHESIZED HANGUL KIYEOKvNIEU",
    "NvTIKEUTvRIEULvMIEUMvPIEUPvSIOSvIEUNGvCIEUCwHIEUCHvKHIEUKHvTHIEUTHvPHIEUPHvHIEUHvKIYEOK AvNIEUN AvTIKE",
    "UT AvRIEUL AvMIEUM AvPIEUP AvSIOS AvIEUNG AvCIEUC AwHIEUCH AvKHIEUKH AvTHIEUTH AvPHIEUPH AvHIEUH AvCIE",
    "UC UoKOREAN CHARACTER OJEONzh HU?oIDEOGRAPH ONEyTWOzaHREEyFOURzaIVEySIXzaEVENyEIGHTyNINEyTENyMOONyFIRE",
    "yWATERzaOODyMETALyEARTHySUNzaTOCKyHAVEySOCIETYyNAMEySPECIALyFINANCIALyCONGRATULATIONyLABORyREPRESENTyC",
    "ALLySTUDYzaUPERVISEyENTERPRISEyRESOURCEyALLIANCEyFESTIVALyRESTySELFyREACHaCIRCLED IDEOGRAPH QUESTIONsK",
    "INDERGARTENsSCHOOLsKOTOiNUMBER TEN ON BLACK SQUAREqWENTY ON BLACK SQUAREqHIRTY ON BLACK SQUAREpFORTY O",
    "N BLACK SQUAREqIFTY ON BLACK SQUAREpSIXTY ON BLACK SQUAREqEVENTY ON BLACK SQUAREpEIGHTY ON BLACK SQUAR",
    "EaPARTNERSHIP SIGNaCIRCLED NUMBER TWENTY ONEwTWOxHREEwFOURxIVEwSIXxEVENwEIGHTwNINEqHIRTYv ONEwTWOxHREE",
    "wFOURxIVEiHANGUL KIYEOKpNIEUNpTIKEUTpRIEULpMIEUMpPIEUPpSIOSpIEUNGpCIEUCqHIEUCHpKHIEUKHpTHIEUTHpPHIEUPH",
    "pHIEUHpKIYEOK ApNIEUN ApTIKEUT ApRIEUL ApMIEUM ApPIEUP ApSIOS ApIEUNG ApCIEUC AqHIEUCH ApKHIEUKH ApTHI",
    "EUTH ApPHIEUPH ApHIEUH AiKOREAN CHARACTER CHAMKOzaJUEUIiHANGUL IEUNG UaKOREAN STANDARD SYMBOLaCIRCLED ",
    "IDEOGRAPH ONEsTWOtHREEsFOURtIVEsSIXtEVENsEIGHTsNINEsTENsMOONsFIREsWATERtOODsMETALsEARTHsSUNtTOCKsHAVEs",
    "SOCIETYsNAMEsSPECIALsFINANCIALsCONGRATULATIONsLABORsSECRETsMALEsFEMALEsSUITABLEsEXCELLENTsPRINTsATTENT",
    "IONsITEMsRESTsCOPYuRRECTsHIGHsCENTREsLOWtEFTsRIGHTsMEDICINEsRELIGIONsSTUDYtUPERVISEsENTERPRISEsRESOURC",
    "EsALLIANCEsNIGHTiNUMBER THIRTY SIXxEVENwEIGHTwNINEpFORTYu ONEvTWOwHREEvFOURwIVEvSIXwEVENvEIGHTvNINEqIF",
    "TYaIDEOGRAPHIC TELEGRAPH SYMBOL FOR JANUARYziFEBRUARYziMARCHziAPRILziMAYziJUNEzkLYziAUGUSTziSEPTEMBERz",
    "iOCTOBERziNOVEMBERziDECEMBERaSQUARE HGhERGiVaLIMITED LIABILITY SIGNaCIRCLED KATAKANA ArIrUrErOrKAsIsUs",
    "EsOrSAsIsUsEsOrTAsIsUsEsOrNAsIsUsEsOrHAsIsUsEsOrMAsIsUsEsOrYAsUsOrRAsIsUsEsOrWAsIsEsOaSQUARE ERA NAME ",
    "REIWAhAPAATOiRUHUAiNPEAiARUhININGUjTIhUONhESUKUUDOiEKAAhONSUiOMUhKAIRIjRATTOkORIIhGARONjNMAiIGAjNIIhKY",
    "URIIhGIRUDAAhKIROlGURAMUlMEETORUlWATTOhGURAMUnTONhKURUZEIROkOONEiEESUiORUNAjOPOhSAIKURUjNTIIMUiIRINGUi",
    "ENTIlOhDAASUiESIiORUhTONhNANOiOTTOhHAITUhPAASENTOkTUhBAARERUhPIASUTORUjKURUkOhBIRUhHUARADDOjIITOhBUSSY",
    "ERUhHURANiEKUTAARUhPESOjNIHIhHERUTUhPENSUjEZIhBEETAhPOINTOhBORUTOhHONhPONDOhHOORUkNhMAIKUROkRUjHHAjRUK",
    "UjNSYONiIKURONjRIlBAARUiEGAlTONjETORUhYAADOkRUiUANhRITTORUjRAiUPIIjUBURUiEMUjNTOGENhWATTOaIDEOGRAPHIC ",
    "TELEGRAPH SYMBOL FOR HOUR ZEROznONEznTWOzoHREEznFOURzoIVEznSIXzoEVENznEIGHTznNINEznTENznELEVENznTWELVE",
    "zoHIRTEENznFOURTEENzoIFTEENznSIXTEENzoEVENTEENznEIGHTEENznNINETEENznTWENTYzt-ONEzuTWOzvHREEzuFOURaSQUA",
    "RE HPAhDAhAUhBARhOVhPChDMj SQUAREDkCUBEDhIUhERA NAME HEISEIqSYOUWAqTAISYOUqMEIZIhCORPORATIONhPA AMPShN",
    "AhMU AiAhKAiBhMBhGBhCALhKCALhPFhNFhMU FkGiGhKGhHZhKHZhMHZhGHZhTHZhMU LiLhDLhKLhFMhNMhMU MiMhCMhKMhMM S",
    "QUAREDhCM SQUAREDhM SQUAREDhKM SQUAREDhMM CUBEDhCM CUBEDhM CUBEDhKM CUBEDhM OVER Sp SQUAREDhPAhKPAhMPA",
    "hGPAhRADk OVER Sr SQUAREDhPShNShMU SiShPVhNVhMU ViVhKVhMV MEGAhPWhNWhMU WiWhKWhMW MEGAhK OHMhM OHMhAMh",
    "BQhCCiDi OVER KGiOhDBhGYhHAiPhINhKKiM CAPITALiThLMiNiOGiXhMB SMALLiILiOLhPHiMiPMiRhSRiVhWBhV OVER MhA ",
    "OVER MaIDEOGRAPHIC TELEGRAPH SYMBOL FOR DAY ONEzmTWOznHREEzmFOURznIVEzmSIXznEVENzmEIGHTzmNINEzmTENzmEL",
    "EVENzmTWELVEznHIRTEENzmFOURTEENznIFTEENzmSIXTEENznEVENTEENzmEIGHTEENzmNINETEENzmTWENTYzs-ONEztTWOzuHRE",
    "EztFOURzuIVEztSIXzuEVENztEIGHTztNINEznHIRTYzs-ONEaSQUARE GAL"]),
  (0x4DC0, ["aHEXAGRAM FOR THE CREATIVE HEAVENrRECEPTIVE EARTHnDIFFICULTY AT THE BEGINNINGnYOUTHFUL FOLLYnW",
    "AITINGnCONFLICTnTHE ARMYnHOLDING TOGETHERnSMALL TAMINGnTREADINGnPEACEnSTANDSTILLnFELLOWSHIPnGREAT POSS",
    "ESSIONnMODESTYnENTHUSIASMnFOLLOWINGnWORK ON THE DECAYEDnAPPROACHnCONTEMPLATIONnBITING THROUGHnGRACEnSP",
    "LITTING APARTnRETURNnINNOCENCEnGREAT TAMINGnMOUTH CORNERSnGREAT PREPONDERANCEnTHE ABYSMAL WATERrCLINGI",
    "NG FIREnINFLUENCEnDURATIONnRETREATnGREAT POWERnPROGRESSnDARKENING OF THE LIGHTnTHE FAMILYnOPPOSITIONoB",
    "STRUCTIONnDELIVERANCEpCREASEnINCREASEnBREAKTHROUGHnCOMING TO MEETnGATHERING TOGETHERnPUSHING UPWARDnOP",
    "PRESSIONnTHE WELLnREVOLUTIONnTHE CAULDRONrAROUSING THUNDERrKEEPING STILL MOUNTAINnDEVELOPMENTnTHE MARR",
    "YING MAIDENnABUNDANCEnTHE WANDERERrGENTLE WINDrJOYOUS LAKEnDISPERSIONnLIMITATIONnINNER TRUTHnSMALL PRE",
    "PONDERANCEnAFTER COMPLETIONnBEFORE COMPLETION"]),
  (0xA000, ["aYI SYLLABLE ITnXmInPnEToXnEoPmATnXmAnPmUOXnOoPmOTnXmOnPmEXmEmWUmBIToXnIoPoETpXoEpPnAToXnAoPnU",
    "OXoOpPnOToXnOoPnEXnEoPnUToXnUoPoRXoRnYToXnYoPoRXoRmPIToXnIoPoEXoEpPnAToXnAoPnUOXoOpPnOToXnOoPnUToXnUoP",
    "oRXoRnYToXnYoPoRXoRmBBITpXoIpPpETqXpEqPoATpXoApPoUOXpOqPoOTpXoOpPoEXoEpPoUTpXoUpPpRXpRoYTpXoYpPmNBITpX",
    "oIpPpEXpEqPoATpXoApPoOTpXoOpPoUTpXoUpPpRXpRoYTpXoYpPpRXpRmHMITpXoIpPpEXpEqPoATpXoApPoUOXpOqPoOTpXoOpPo",
    "UTpXoUpPpRXpRoYXoYpPpRXpRmMIToXnIoPoEXoEpPnAToXnAoPnUOTpXoOpPnOToXnOoPnEXnEnUToXnUoPoRXoRnYToXnYoPmFIT",
    "oXnIoPnAToXnAoPnOXnOoPnUToXnUoPoRXoRnYToXnYoPmVIToXnIoPoETpXoEpPnAToXnAoPnOToXnOoPnEXoPnUToXnUoPoRXoRn",
    "YToXnYoPoRXoRmDIToXnIoPoEXoEpPnAToXnAoPnUOXoOnOToXnOoPnEXnEoPnUToXnUoPoRXoRmTIToXnIoPoEXoEpPnAToXnAoPn",
    "UOTpXoOpPnOToXnOoPnEXnEoPnUToXnUoPoRXoRmDDITpXoIpPpEXpEqPoATpXoApPoUOXpOqPoOTpXoOpPoEXoEpPoUTpXoUpPpRX",
    "pRmNDITpXoIpPpEXpEoATpXoApPoOTpXoOpPoEXoEpPoUTpXoUpPpRXpRmHNITpXoIpPpETqXpEqPoATpXoApPoUOXpOoOTpXpPoEX",
    "oEpPoUTmNIToXnIoPoEXoEpPnAXnAoPnUOXoOpPnOToXnOoPnEXnEoPnUToXnUoPoRXoRmHLITpXoIpPpEXpEqPoATpXoApPoUOXpO",
    "qPoOXoOpPoEXoEpPoUTpXoUpPpRXpRoYTpXoYpPpRXpRmLIToXnIoPoETpXoEpPnAToXnAoPnUOTpXoOpPnOToXnOoPnEXnEoPnUTo",
    "XnUoPoRXoRnYToXnYoPoRXoRmGIToXnIoPoETpXoEpPnAToXnAoPnUOTpXoOpPnOToXnOoPnEToXnEoPnUToXnUoPoRXoRmKIToXnI",
    "oPoEXoEpPnAToXnAoPnUOXoOpPnOToXnOoPnEToXnEoPnUToXnUoPoRXoRmGGITpXoIpEXpEqPoATpXoApPoUOTqXpOqPoOTpXoOpP",
    "oETpXoEpPoUTpXoUpPpRXpRmMGIEXpEoATpXoApPoUOXpOqPoOTpXoOpPoEXoEpPoUTpXoUpPpRXpRmHXITpXoIpPpETqXpEqPoATp",
    "XoApPoUOTqXpOqPoOTpXoOpPoEXoEpPmNGIEXpEqPoATpXoApPoUOTqXpOoOTpXoOpPoEXoEpPmHIToEXoEnAToXnAoPnUOTpXoOpP",
    "nOToXnOoPnEXnEoPmWAToXnAoPnUOXoOpPnOXnOoPnEXnEoPmZIToXnIoPoEXoEpPnAToXnAoPnUOXoOpPnOToXnOoPnEXnEoPnUTo",
    "XnUoPoRXoRnYToXnYoPoRXoRmCIToXnIoPoETpXoEpPnAToXnAoPnUOXoOpPnOToXnOoPnEXnEoPnUToXnUoPoRXoRnYToXnYoPoRX",
    "oRmZZITpXoIpPpETqXpEqPoATpXoApPoOXoOpPoEXoEpPoUXoUpPpRXpRoYTpXoYpPpRXpRmNZITpXoIpPpEXpEqPoATpXoApPoUOX",
    "pOoOXpPoEXoEoUXoUpPpRXpRoYTpXoYpPpRXpRmSIToXnIoPoEXoEpPnAToXnAoPnUOXoOpPnOToXnOoPnEXnEoPnUToXnUoPoRXoR",
    "nYToXnYoPoRXoRnSITpXoIpPpEXpEqPoATpXoApPoOTpXoOpPoEXoEpPoUTpXoUpPoYTpXoYpPpRXpRmZHATpXoApPoUOXpOqPoOTp",
    "XoOpPoETpXoEpPoUTpXoUpPpRXpRoYTpXoYpPpRXpRmCHATpXoApPoUOTqXpOqPoOTpXoOpPoETpXoEpPoUXoUpPpRXpRoYTpXoYpP",
    "pRXpRmRRAXoAoUOXpOoOTpXoOpPoETpXoEpPoUTpXoUpPpRXpRoYTpXoYpPpRXpRmNRATpXoApPoOXoOpPoETpXoEpPoUTpXoUpPpR",
    "XpRoYTpXoYpPpRXpRmSHATpXoApPoUOXpOqPoOTpXoOpPoETpXoEpPoUTpXoUpPpRXpRoYTpXoYpPpRXpRmRAToXnAoPnUOXoOpPnO",
    "ToXnOoPnEXnEoPnUToXnUoPoRXoRnYToXnYoPoRXoRmJIToXnIoPoETpXoEpPnUOTpXoOpPnOToXnOoPnUToXnUoPoRXoRnYToXnYo",
    "PoRXoRmQIToXnIoPoETpXoEpPnUOTpXoOpPnOToXnOoPnUToXnUoPoRXoRnYToXnYoPoRXoRmJJITpXoIpPpETqXpEqPoUOXpOqPoO",
    "TpXoOpPoUTpXoUpPpRXpRoYTpXoYpPmNJITpXoIpPpETqXpEqPoUOXpOoOTpXoOpPoUXoUpPpRXpRoYTpXoYpPpRXpRnYITpXoIpPp",
    "ETqXpEqPoUOXpOqPoOTpXoOpPoUTpXoUpPmXIToXnIoPoETpXoEpPnUOXoOnOToXnOoPnYToXnYoPoRXoRmYIToXnIoPoETpXoEpPn",
    "UOTpXoOpPnOToXnOoPnUToXnUoPoRXoRnYToXnYoPoRXoR???dRADICAL QOTlLIlKITlNYIPlCYPlSSIlGGOPmEPlMIlHXITlLYRl",
    "BBUTlMOPlYOlPUTlHXUOlTATlGAlZUPlCYTlDDURlBURlGGUOlNYOPlTUlOPlJJUTlZOTlPYTlHMOlYITlVURlSHYlVEPlZAlJOlNZ",
    "UPlJJYlGOTlJJIElWOlDUlSHURlLIElCYmUOPmIPlHXOPlSHATlZURlSHOPlCHElZZIETlNBIElKE"]),
  (0xA4D0, ["aLISU LETTER BAmPAnHAmDAmTAnHAmGAmKAnHAmJAmCAnHAmDZAmTSAoHAmMAmNAmLAmSAmZHAnAmNGAmHAmXAmHHAmFA",
    "mWAmSHAmYAmGHAmAnEmEnUmImOmUnEnHmOEmTONE MYA TIrNA POrMYA CYAvBOvNAvJEUfPUNCTUATION COMMArFULL STOPaVA",
    "I SYLLABLE EEpNnHEEnWEEqNnPEEnBHEEoEEnMBEEnKPEEnMGBEEnGBEEnFEEnVEEnTEEoHEEnDHEEpHEEnLEEnREEnDEEnNDEEnS",
    "EEoHEEnZEEoHEEnCEEnJEEnNJEEnYEEnKEEnNGGEEnGEEnMEEnNEEoYEEnIoNnHIpNnWIpNnPInBHIoInMBInKPInMGBInGBInFInV",
    "InTIoHInDHIpHInLInRInDInNDInSIoHInZIoHInCInJInNJInYInKInNGGInGInMInNIoYInAoNnNGANnHApNnWApNnPAnBHAoAnM",
    "BAnKPAqNnMGBAnGBAnFAnVAnTAoHAnDHApHAnLAnRAnDAnNDAnSAoHAnZAoHAnCAnJAnNJAnYAnKApNnNGGAnGAnMAnNAoYAnOOpNn",
    "HOOnWOOqNnPOOnBHOOoOOnMBOOnKPOOnMGBOOnGBOOnFOOnVOOnTOOoHOOnDHOOpHOOnLOOnROOnDOOnNDOOnSOOoHOOnZOOoHOOnC",
    "OOnJOOnNJOOnYOOnKOOnNGGOOnGOOnMOOnNOOoYOOnUoNnHUpNnWUpNnPUnBHUoUnMBUnKPUnMGBUnGBUnFUnVUnTUoHUnDHUpHUnL",
    "UnRUnDUnNDUnSUoHUnZUoHUnCUnJUnNJUnYUnKUnNGGUnGUnMUnNUoYUnOoNnNGONnHOpNnWOpNnPOnBHOoOnMBOnKPOnMGBOnGBOq",
    "NnFOnVOnTOoHOnDHOpHOnLOnROnDOnNDOnSOoHOnZOoHOnCOnJOnNJOnYOnKOnNGGOnGOnMOnNOoYOnEoNnNGENnHEpNnWEpNnPEnB",
    "HEoEnMBEnKPEqNnMGBEnGBEqNnFEnVEnTEoHEnDHEpHEnLEnREnDEnNDEnSEoHEnZEoHEnCEnJEnNJEnYEnKEnNGGErNnGEpNnMEnN",
    "EoYEoGnLENGTHENEReCOMMAeFULL STOPeQUESTION MARKeSYLLABLE NDOLE FAtKAtSOOgMBOL FEENGlKEENGlTINGlNIIlBAN",
    "GlFAAlTAAlDANGmOONGlKUNGlTONGlDO-OlJONGeDIGIT ZEROkONEkTWOlHREEkFOURlIVEkSIXlEVENkEIGHTkNINEeSYLLABLE ",
    "NDOLE MAtDO"]),
  (0xA640, ["aCYRILLIC CAPITAL LETTER ZEMLYAjSMALL LETTER ZEMLYAjCAPITAL LETTER DZELOjSMALL LETTER DZELOjCA",
    "PITAL LETTER REVERSED DZEjSMALL LETTER REVERSED DZEjCAPITAL LETTER IOTAjSMALL LETTER IOTAjCAPITAL LETT",
    "ER DJERVjSMALL LETTER DJERVjCAPITAL LETTER MONOGRAPH UKjSMALL LETTER MONOGRAPH UKjCAPITAL LETTER BROAD",
    " OMEGAjSMALL LETTER BROAD OMEGAjCAPITAL LETTER NEUTRAL YERjSMALL LETTER NEUTRAL YERjCAPITAL LETTER YER",
    "U WITH BACK YERjSMALL LETTER YERU WITH BACK YERjCAPITAL LETTER IOTIFIED YATjSMALL LETTER IOTIFIED YATj",
    "CAPITAL LETTER REVERSED YUjSMALL LETTER REVERSED YUjCAPITAL LETTER IOTIFIED AjSMALL LETTER IOTIFIED Aj",
    "CAPITAL LETTER CLOSED LITTLE YUSjSMALL LETTER CLOSED LITTLE YUSjCAPITAL LETTER BLENDED YUSjSMALL LETTE",
    "R BLENDED YUSjCAPITAL LETTER IOTIFIED CLOSED LITTLE YUSjSMALL LETTER IOTIFIED CLOSED LITTLE YUSjCAPITA",
    "L LETTER YNjSMALL LETTER YNjCAPITAL LETTER REVERSED TSEjSMALL LETTER REVERSED TSEjCAPITAL LETTER SOFT ",
    "DEjSMALL LETTER SOFT DEjCAPITAL LETTER SOFT ELjSMALL LETTER SOFT ELjCAPITAL LETTER SOFT EMjSMALL LETTE",
    "R SOFT EMjCAPITAL LETTER MONOCULAR OjSMALL LETTER MONOCULAR OjCAPITAL LETTER BINOCULAR OjSMALL LETTER ",
    "BINOCULAR OjCAPITAL LETTER DOUBLE MONOCULAR OjSMALL LETTER DOUBLE MONOCULAR OjLETTER MULTIOCULAR ObOMB",
    "INING CYRILLIC VZMETtTEN MILLIONS SIGNtHUNDRED MILLIONS SIGNtTHOUSAND MILLIONS SIGNaSLAVONIC ASTERISKa",
    "COMBINING CYRILLIC LETTER UKRAINIAN IEzbIzbYIzbUzbHARD SIGNzbYERUzbSOFT SIGNzbOMEGAtKAVYKAtPAYEROKbYRI",
    "LLIC KAVYKAjPAYEROKjCAPITAL LETTER DWEjSMALL LETTER DWEjCAPITAL LETTER DZWEjSMALL LETTER DZWEjCAPITAL ",
    "LETTER ZHWEjSMALL LETTER ZHWEjCAPITAL LETTER CCHEjSMALL LETTER CCHEjCAPITAL LETTER DZZEjSMALL LETTER D",
    "ZZEjCAPITAL LETTER TE WITH MIDDLE HOOKjSMALL LETTER TE WITH MIDDLE HOOKjCAPITAL LETTER TWEjSMALL LETTE",
    "R TWEjCAPITAL LETTER TSWEjSMALL LETTER TSWEjCAPITAL LETTER TSSEjSMALL LETTER TSSEjCAPITAL LETTER TCHEj",
    "SMALL LETTER TCHEjCAPITAL LETTER HWEjSMALL LETTER HWEjCAPITAL LETTER SHWEjSMALL LETTER SHWEjCAPITAL LE",
    "TTER DOUBLE OjSMALL LETTER DOUBLE OjCAPITAL LETTER CROSSED OjSMALL LETTER CROSSED OaMODIFIER LETTER CY",
    "RILLIC HARD SIGNzaSOFT SIGNaCOMBINING CYRILLIC LETTER EFzbIOTIFIED EaBAMUM LETTER AnKAnUnKUnEEnREEnTAE",
    "nOnNYInInLAnPAnRIIpEEnLEEEEnMEEEEnTAAnNDAAoJAEMnMnSUUnMUnSHIIoIoHEUXoEUXnKYEEoETnNUAEoUoJUAEnYOQnSHUnY",
    "UQoAnNSHAnKEUXnPEUXnNJEEoTEEnPUEnWUEnPEEnFEEnRUnLUnMInNInREUXoAEnKENnNGKWAENpGApAnSHOnPUAEnFUoOMnWAnNA",
    "nLInPInLOQnKOnMBENnRENnMENoAnTInKInMOoBAAnTETnKPAnTENnNTUUnSAMBAnFAAMAEnKOVUUpGHOMgCOMBINING MARK KOQN",
    "DONvTUKWENTISgNJAEMLIgFULL STOPgCOLONiMMAgSEMICOLONgQUESTION MARK"]),
  (0xA700, ["aMODIFIER LETTER CHINESE TONE YIN PINGzfANG PINGzfIN SHANGzfANG SHANGzfIN QUzfANG QUzfIN RUzfA",
    "NG RUqEXTRA-HIGH DOTTED TONE BARqHIGH DOTTED TONE BARqMID DOTTED TONE BARqLOW DOTTED TONE BARqEXTRA-LO",
    "W DOTTED TONE BARwHIGH DOTTED LEFT-STEM TONE BARqHIGH DOTTED LEFT-STEM TONE BARqMID DOTTED LEFT-STEM T",
    "ONE BARqLOW DOTTED LEFT-STEM TONE BARqEXTRA-LOW DOTTED LEFT-STEM TONE BARwHIGH LEFT-STEM TONE BARqHIGH",
    " LEFT-STEM TONE BARqMID LEFT-STEM TONE BARqLOW LEFT-STEM TONE BARqEXTRA-LOW LEFT-STEM TONE BARqDOT VER",
    "TICAL BARuSLASHuHORIZONTAL BARqLOWER RIGHT CORNER ANGLEqRAISED UP ARROWxDOWN ARROWxEXCLAMATION MARKxIN",
    "VERTED EXCLAMATION MARKqLOW INVERTED EXCLAMATION MARKqSTRESS AND HIGH TONEzcLOW TONEaLATIN CAPITAL LET",
    "TER EGYPTOLOGICAL ALEFgSMALL LETTER EGYPTOLOGICAL ALEFgCAPITAL LETTER EGYPTOLOGICAL AINgSMALL LETTER E",
    "GYPTOLOGICAL AINgCAPITAL LETTER HENGgSMALL LETTER HENGgCAPITAL LETTER TZgSMALL LETTER TZgCAPITAL LETTE",
    "R TRESILLOgSMALL LETTER TRESILLOgCAPITAL LETTER CUATRILLOgSMALL LETTER CUATRILLOgCAPITAL LETTER CUATRI",
    "LLO WITH COMMAgSMALL LETTER CUATRILLO WITH COMMAgLETTER SMALL CAPITAL FzcSgCAPITAL LETTER AAgSMALL LET",
    "TER AAgCAPITAL LETTER AOgSMALL LETTER AOgCAPITAL LETTER AUgSMALL LETTER AUgCAPITAL LETTER AVgSMALL LET",
    "TER AVgCAPITAL LETTER AV WITH HORIZONTAL BARgSMALL LETTER AV WITH HORIZONTAL BARgCAPITAL LETTER AYgSMA",
    "LL LETTER AYgCAPITAL LETTER REVERSED C WITH DOTgSMALL LETTER REVERSED C WITH DOTgCAPITAL LETTER K WITH",
    " STROKEgSMALL LETTER K WITH STROKEgCAPITAL LETTER K WITH DIAGONAL STROKEgSMALL LETTER K WITH DIAGONAL ",
    "STROKEgCAPITAL LETTER K WITH STROKE AND DIAGONAL STROKEgSMALL LETTER K WITH STROKE AND DIAGONAL STROKE",
    "gCAPITAL LETTER BROKEN LgSMALL LETTER BROKEN LgCAPITAL LETTER L WITH HIGH STROKEgSMALL LETTER L WITH H",
    "IGH STROKEgCAPITAL LETTER O WITH LONG STROKE OVERLAYgSMALL LETTER O WITH LONG STROKE OVERLAYgCAPITAL L",
    "ETTER O WITH LOOPgSMALL LETTER O WITH LOOPgCAPITAL LETTER OOgSMALL LETTER OOgCAPITAL LETTER P WITH STR",
    "OKE THROUGH DESCENDERgSMALL LETTER P WITH STROKE THROUGH DESCENDERgCAPITAL LETTER P WITH FLOURISHgSMAL",
    "L LETTER P WITH FLOURISHgCAPITAL LETTER P WITH SQUIRREL TAILgSMALL LETTER P WITH SQUIRREL TAILgCAPITAL",
    " LETTER Q WITH STROKE THROUGH DESCENDERgSMALL LETTER Q WITH STROKE THROUGH DESCENDERgCAPITAL LETTER Q ",
    "WITH DIAGONAL STROKEgSMALL LETTER Q WITH DIAGONAL STROKEgCAPITAL LETTER R ROTUNDAgSMALL LETTER R ROTUN",
    "DAgCAPITAL LETTER RUM ROTUNDAgSMALL LETTER RUM ROTUNDAgCAPITAL LETTER V WITH DIAGONAL STROKEgSMALL LET",
    "TER V WITH DIAGONAL STROKEgCAPITAL LETTER VYgSMALL LETTER VYgCAPITAL LETTER VISIGOTHIC ZgSMALL LETTER ",
    "VISIGOTHIC ZgCAPITAL LETTER THORN WITH STROKEgSMALL LETTER THORN WITH STROKEgCAPITAL LETTER THORN WITH",
    " STROKE THROUGH DESCENDERgSMALL LETTER THORN WITH STROKE THROUGH DESCENDERgCAPITAL LETTER VENDgSMALL L",
    "ETTER VENDgCAPITAL LETTER ETgSMALL LETTER ETgCAPITAL LETTER ISgSMALL LETTER ISgCAPITAL LETTER CONgSMAL",
    "L LETTER CONaMODIFIER LETTER USaLATIN SMALL LETTER DUMtLUMtMUMtNUMtRUMgLETTER SMALL CAPITAL RUMgSMALL ",
    "LETTER TUMtUMgCAPITAL LETTER INSULAR DgSMALL LETTER INSULAR DgCAPITAL LETTER INSULAR FgSMALL LETTER IN",
    "SULAR FgCAPITAL LETTER INSULAR GvTURNED INSULAR GgSMALL LETTER TURNED INSULAR GgCAPITAL LETTER TURNED ",
    "LgSMALL LETTER TURNED LgCAPITAL LETTER INSULAR RgSMALL LETTER INSULAR RgCAPITAL LETTER INSULAR SgSMALL",
    " LETTER INSULAR SgCAPITAL LETTER INSULAR TgSMALL LETTER INSULAR TaMODIFIER LETTER LOW CIRCUMFLEX ACCEN",
    "TqCOLONqSHORT EQUALS SIGNaLATIN CAPITAL LETTER SALTILLOgSMALL LETTER SALTILLOgCAPITAL LETTER TURNED Hg",
    "SMALL LETTER L WITH RETROFLEX HOOK AND BELTgLETTER SINOLOGICAL DOTgCAPITAL LETTER N WITH DESCENDERgSMA",
    "LL LETTER N WITH DESCENDERgCAPITAL LETTER C WITH BARgSMALL LETTER C WITH BARzbPALATAL HOOKtH WITH PALA",
    "TAL HOOKgCAPITAL LETTER B WITH FLOURISHgSMALL LETTER B WITH FLOURISHgCAPITAL LETTER F WITH STROKEgSMAL",
    "L LETTER F WITH STROKEgCAPITAL LETTER VOLAPUK AEgSMALL LETTER VOLAPUK AEgCAPITAL LETTER VOLAPUK OEgSMA",
    "LL LETTER VOLAPUK OEgCAPITAL LETTER VOLAPUK UEgSMALL LETTER VOLAPUK UEgCAPITAL LETTER G WITH OBLIQUE S",
    "TROKEgSMALL LETTER G WITH OBLIQUE STROKEgCAPITAL LETTER K WITH OBLIQUE STROKEgSMALL LETTER K WITH OBLI",
    "QUE STROKEgCAPITAL LETTER N WITH OBLIQUE STROKEgSMALL LETTER N WITH OBLIQUE STROKEgCAPITAL LETTER R WI",
    "TH OBLIQUE STROKEgSMALL LETTER R WITH OBLIQUE STROKEgCAPITAL LETTER S WITH OBLIQUE STROKEgSMALL LETTER",
    " S WITH OBLIQUE STROKEgCAPITAL LETTER H WITH HOOKvREVERSED OPEN EvSCRIPT GvL WITH BELTvSMALL CAPITAL I",
    "gLETTER SMALL CAPITAL QgCAPITAL LETTER TURNED KzdTvJ WITH CROSSED-TAILvCHIvBETAgSMALL LETTER BETAgCAPI",
    "TAL LETTER OMEGAgSMALL LETTER OMEGAgCAPITAL LETTER U WITH STROKEgSMALL LETTER U WITH STROKEgCAPITAL LE",
    "TTER GLOTTAL AgSMALL LETTER GLOTTAL AgCAPITAL LETTER GLOTTAL IgSMALL LETTER GLOTTAL IgCAPITAL LETTER G",
    "LOTTAL UgSMALL LETTER GLOTTAL UgCAPITAL LETTER OLD POLISH OgSMALL LETTER OLD POLISH OgCAPITAL LETTER A",
    "NGLICANA WgSMALL LETTER ANGLICANA WgCAPITAL LETTER C WITH PALATAL HOOKvS WITH HOOKvZ WITH PALATAL HOOK",
    "vD WITH SHORT STROKE OVERLAYgSMALL LETTER D WITH SHORT STROKE OVERLAYgCAPITAL LETTER S WITH SHORT STRO",
    "KE OVERLAYgSMALL LETTER S WITH SHORT STROKE OVERLAY?????gCAPITAL LETTER CLOSED INSULAR GgSMALL LETTER ",
    "CLOSED INSULAR G?tDOUBLE THORN?zbWYNNgCAPITAL LETTER MIDDLE SCOTS SgSMALL LETTER MIDDLE SCOTS SgCAPITA",
    "L LETTER SIGMOID SgSMALL LETTER SIGMOID S"]),
  (0xA7F2, ["aMODIFIER LETTER CAPITAL CyFyQaLATIN CAPITAL LETTER REVERSED HALF HgSMALL LETTER REVERSED HALF",
    " HgEPIGRAPHIC LETTER SIDEWAYS IaMODIFIER LETTER CAPITAL H WITH STROKEqSMALL LIGATURE OEaLATIN LETTER S",
    "MALL CAPITAL TURNED MgEPIGRAPHIC LETTER REVERSED FziPyINVERTED Mza LONGAyARCHAIC MaSYLOTI NAGRI LETTER",
    " AuInSIGN DVISVARAnLETTER UuEuOnSIGN HASANTAnLETTER KOvHOuGOvHOnSIGN ANUSVARAnLETTER COvHOuJOvHOuTTOwH",
    "OuDDOwHOuTOvHOuDOvHOuNOuPOvHOuBOvHOuMOuROuLOuRROuSOuHOnVOWEL SIGN AyIyUyEyOOnPOETRY MARK-1za2za3za4nSI",
    "GN ALTERNATE HASANTA???aNORTH INDIC FRACTION ONE QUARTERzaHALFvTHREE QUARTERSvONE SIXTEENTHzaEIGHTHvTH",
    "REE SIXTEENTHSmQUARTER MARKmPLACEHOLDER MARKmRUPEE MARKmQUANTITY MARK??????aPHAGS-PA LETTER KArHAqGAqN",
    "GAqCArHAqJAqNYAqTArHAqDAqNAqPArHAqBAqMAqTSAsHAqDZAqWAqZHArAqSMALL AqYAqRAqLAqSHArAqHAqAqIqUqEqOqQAqXAq",
    "FAqGGAqEEjSUBJOINED LETTER WAzbYAjLETTER TTAsHAqDDAqNNAqALTERNATE YAqVOICELESS SHAvD HAqASPIRATED FAjS",
    "UBJOINED LETTER RAlPERFIXED LETTER RAjLETTER CANDRABINDUjSINGLE HEAD MARKjDOUBLE HEAD MARKjMARK SHADoD",
    "OUBLE SHAD"]),
  (0xA880, ["aSAURASHTRA SIGN ANUSVARAqVISARGAlLETTER AtAsItIsUtUsVOCALIC RzcRzbLzcLsEtEsAIsOtOsAUsKAtHAsGA",
    "tHAsNGAsCAtHAsJAtHAsNYAsTTAuHAsDDAuHAsNNAsTAtHAsDAtHAsNAsPAtHAsBAtHAsMAsYAsRAsLAsVAsSHAtSAtAsHAsLLAlCO",
    "NSONANT SIGN HAARUlVOWEL SIGN AAwIxIwUxUwVOCALIC RzgRzfLzgLwExEwAIwOxOwAUlSIGN VIRAMAqCANDRABINDU"]),
  (0xA8CE, ["aSAURASHTRA DANDAmOUBLE DANDAmIGIT ZEROrONErTWOsHREErFOURsIVErSIXsEVENrEIGHTrNINE??????aCOMBIN",
    "ING DEVANAGARI DIGIT ZEROzcONEzcTWOzdHREEzcFOURzdIVEzcSIXzdEVENzcEIGHTzcNINEvLETTER AzdUzdKAzdNAzdPAzd",
    "RAzdVIvSIGN AVAGRAHAaDEVANAGARI SIGN SPACING CANDRABINDUqCANDRABINDU VIRAMAqDOUBLE CANDRABINDU VIRAMAq",
    "CANDRABINDU TWOzeHREEzdAVAGRAHAqPUSHPIKAlGAP FILLERlCARETlHEADSTROKElSIGN SIDDHAMlJAIN OMlLETTER AYlVO",
    "WEL SIGN AYaKAYAH LI DIGIT ZEROpONEpTWOqHREEpFOURqIVEpSIXqEVENpEIGHTpNINEjLETTER KArHAqGAqNGAqSArHAqZA",
    "qNYAqTAqHTAqNAqPArHAqMAqDAqBAqRAqYAqLAqWAqTHAqHAqVAqCAqAqOEqIqOOjVOWEL UEpEpUpEEpOjTONE PLOPHUoCALYAt ",
    "PLOPHUjSIGN CWIoSHYAaREJANG LETTER KAoGAoNGAoTAoDAoNAoPAoBAoMAoCAoJAoNYAoSAoRAoLAoYAoWAoHAoMBAoNGGApDA",
    "pYJAoAhVOWEL SIGN IsUsEsAIsOsAUsEUtAhCONSONANT SIGN NGwNwRwHhVIRAMA"]),
  (0xA95F, ["aREJANG SECTION MARKaHANGUL CHOSEONG TIKEUT-MIEUMxPIEUPxSIOSxCIEUCqRIEUL-KIYEOKwSSANGKIYEOKwTI",
    "KEUTwSSANGTIKEUTwMIEUMwPIEUPwSSANGPIEUPwKAPYEOUNPIEUPwSIOSwCIEUCwKHIEUKHqMIEUM-KIYEOKwTIKEUTwSIOSqPIEU",
    "P-SIOS-THIEUTHwKHIEUKHwHIEUHqSSANGSIOS-PIEUPqIEUNG-RIEULwHIEUHqSSANGCIEUC-HIEUHvTHIEUTHqPHIEUPH-HIEUHq",
    "HIEUH-SIOSqSSANGYEORINHIEUH???aJAVANESE SIGN PANYANGGAoCECAKoLAYARoWIGNYANjLETTER AqI KAWIqIrIqUqPA CE",
    "REKqNGA LELETza RASWADIqEqAIqOqKAs SASAKtMURDAqGAs MURDAqNGAqCAs MURDAqJAqNYA MURDAqJA MAHAPRANAqNYAqT",
    "TAt MAHAPRANAqDDAt MAHAPRANAqNA MURDAqTAs MURDAqDAs MAHAPRANAqNAqPAs MURDAqBAs MURDAqMAqYAqRAs AGUNGqL",
    "AqWAqSA MURDAuAHAPRANArAqHAjSIGN CECAK TELUjVOWEL SIGN TARUNGvOLONGuWULUy MELIKuSUKUy MENDUTuTALINGuDI",
    "RGA MUREuPEPETjCONSONANT SIGN KERETyPENGKALyCAKRAjPANGKONjLEFT RERENGGANjRIGHT RERENGGANjPADA ANDAPoMA",
    "DYAoLUHURoWINDUoPANGKAToLINGSApUNGSIoADEGs ADEGoPISELEHjTURNED PADA PISELEH?jPANGRANGKEPjDIGIT ZEROpON",
    "EpTWOqHREEpFOURqIVEpSIXqEVENpEIGHTpNINE????jPADA TIRTA TUMETESoISEN-ISENaMYANMAR LETTER SHAN GHAuCHAuJ",
    "HAuNNAuBHAiSIGN SHAN SAWiMODIFIER LETTER SHAN REDUPLICATIONiLETTER TAI LAING NYAzaFAzaGAzbHAzaJAzbHAza",
    "DDAzcHAzaNNAiTAI LAING DIGIT ZEROyONEyTWOzaHREEyFOURzaIVEySIXzaEVENyEIGHTyNINEiLETTER TAI LAING LLAzaD",
    "AzbHAzaBAzbHA?aCHAM LETTER AmImUmEmAImOmKAnHAmGAnHAmNGUEoAmCHAoHAmJAnHAmNHUEoAoJAmTAnHAmDAnHAmNUEnAmDD",
    "AmPAnPAnHAmBAnHAmMUEnAmBBAmYAmRAmLAmVAmSSAnAmHAfVOWEL SIGN AAqIrIqEIqUqOEqOqAIrUqUEfCONSONANT SIGN YAu",
    "RAuLAuWA"]),
  (0xAA40, ["aCHAM LETTER FINAL KsGsNGfCONSONANT SIGN FINAL NGfLETTER FINAL CHsTsNsPsYsRsLsSSfCONSONANT SIG",
    "N FINAL MzbH??fDIGIT ZEROlONElTWOmHREElFOURmIVElSIXmEVENlEIGHTlNINE??fPUNCTUATION SPIRALrDANDAsOUBLE D",
    "ANDArTRIPLE DANDAaMYANMAR LETTER KHAMTI GAwCAxHAwJAxHAwNYAwTTAyHAwDDAyHAxHAwNAwSAwHAxHAwFAiMODIFIER LE",
    "TTER KHAMTI REDUPLICATIONiLETTER KHAMTI XAwZAwRAjOGOGRAM KHAMTI OAYyQNyHMiSYMBOL AITON EXCLAMATIONvONE",
    "vTWOiLETTER AITON RAiSIGN PAO KAREN TONEnTAI LAING TONE-2zd5iLETTER SHWE PALAUNG CHAzdSHAaTAI VIET LET",
    "TER LOW KOqHIGH KOqLOW KHOqHIGH KHOqLOW KHHOqHIGH KHHOqLOW GOqHIGH GOqLOW NGOqHIGH NGOqLOW COqHIGH COq",
    "LOW CHOqHIGH CHOqLOW SOqHIGH SOqLOW NYOqHIGH NYOqLOW DOqHIGH DOqLOW TOqHIGH TOqLOW THOqHIGH THOqLOW NO",
    "qHIGH NOqLOW BOqHIGH BOqLOW POqHIGH POqLOW PHOqHIGH PHOqLOW FOqHIGH FOqLOW MOqHIGH MOqLOW YOqHIGH YOqL",
    "OW ROqHIGH ROqLOW LOqHIGH LOqLOW VOqHIGH VOqLOW HOqHIGH HOqLOW OqHIGH OjMAI KANGjVOWEL AApIpUEpUpEpOjM",
    "AI KHITjVOWEL IApUEAqApAUEqYqNqMjTONE MAI EKsNUENGsTHOsSONG"]),
  (0xAADB, ["aTAI VIET SYMBOL KONqNUENGqSAMqHO HOIqKOI KOIaMEETEI MAYEK LETTER EuOuCHAuNYAuTTAwHAuDDAwHAuNN",
    "AuSHAvSAnVOWEL SIGN IIyUUyAAIzaUzaAUnCHEIKHANnAHANG KHUDAMoNJInSYLLABLE REPETITION MARKnWORD REPETITIO",
    "N MARKnVOWEL SIGN VISARGAoIRAMA"]),
  (0xAB01, ["aETHIOPIC SYLLABLE TTHUvIvAAvEEvEvO??sDDHUvIvAAvEEvEvO??tZUuIuAAuEEuEuO"]),
  (0xAB20, ["aETHIOPIC SYLLABLE CCHHAwUwIwAAwEEwEwO?sBBAuUuIuAAuEEuEuO?aLATIN SMALL LETTER BARRED ALPHAtA R",
    "EVERSED-SCHWAtBLACKLETTER EuARRED EtE WITH FLOURISHtLENIS FtSCRIPT G WITH CROSSED-TAILtL WITH INVERTED",
    " LAZY SzbDOUBLE MIDDLE TILDEzbMIDDLE RINGtM WITH CROSSED-TAILtN WITH CROSSED-TAILtENG WITH CROSSED-TAI",
    "LtBLACKLETTER Ozh WITH STROKEtOPEN O WITH STROKEtINVERTED OEtTURNED OE WITH STROKEzjHORIZONTAL STROKEz",
    "c OPEN-Ozj WITH STROKEtSTIRRUP RgLETTER SMALL CAPITAL R WITH RIGHT LEGgSMALL LETTER R WITHOUT HANDLEtD",
    "OUBLE RtR WITH CROSSED-TAILtDOUBLE R WITH CROSSED-TAILtSCRIPT Rzc WITH RINGtBASELINE ESHtU WITH SHORT ",
    "RIGHT LEGvBAR WITH SHORT RIGHT LEGuItTURNED UItU WITH LEFT HOOKtCHIw WITH LOW RIGHT RINGzhLEFT SERIFtX",
    " WITH LOW RIGHT RINGzdNG LEFT LEGzo AND LOW RIGHT RINGzpWITH SERIFtY WITH SHORT RIGHT LEGaMODIFIER BRE",
    "VE WITH INVERTED BREVEjLETTER SMALL HENGwL WITH INVERTED LAZY SzeMIDDLE TILDEwU WITH LEFT HOOKaLATIN S",
    "MALL LETTER SAKHA YATtIOTIFIED EtOPEN OEtUOtINVERTED ALPHAaGREEK LETTER SMALL CAPITAL OMEGAaLATIN SMAL",
    "L LETTER DZ DIGRAPH WITH RETROFLEX HOOKtTS DIGRAPH WITH RETROFLEX HOOKuURNED R WITH MIDDLE TILDEaMODIF",
    "IER LETTER SMALL TURNED WqLEFT TACKqRIGHT TACK????aCHEROKEE SMALL LETTER AwEwIwOwUwVwGAwKAwGExIxOxUxVw",
    "HAxExIxOxUxVwLAxExIxOxUxVwMAxExIxOxUwNAwHNAwNAHxExIxOxUxVwQUAyEyIyOyUyVwSAwSxExIxOxUxVwDAwTAwDEwTEwDIw",
    "TIwDOxUxVxLAwTLAyEyIyOyUyVxSAyEyIyOyUyVwWAxExIxOxUxVwYAaMEETEI MAYEK LETTER KOKuSAMuLAIuMITuPAuNAuCHIL",
    "uTILuKHOUuNGOUuTHOUuWAIuYANGuHUKuUNuIuPHAMuATIYAuGOKuJHAMuRAIuBAuJILuDILuGHOUuDHOUuBHAMuKOK LONSUMuLAI",
    " LONSUMuMIT LONSUMuPA LONSUMuNA LONSUMuTIL LONSUMuNGOU LONSUMuI LONSUMnVOWEL SIGN ONAPyINAPyANAPyYENAP",
    "ySOUNAPyUNAPyCHEINAPyNUNGnCHEIKHEInLUM IYEKnAPUN IYEK??nDIGIT ZEROtONEtTWOuHREEtFOURuIVEtSIXuEVENtEIGH",
    "TtNINE"]),
  (0xD7B0, ["aHANGUL JUNGSEONG O-YEOtO-IrYO-AvEuEOrU-YEOtI-IrYU-AEuOrEU-AuEOuEuOrI-YA-OvEuEOuEtO-ItYOuUtIrA",
    "RAEA-AxE????iONGSEONG NIEUN-RIEULxCHIEUCHrSSANGTIKEUTzd-PIEUPrTIKEUT-PIEUPySIOSzd-KIYEOKyCIEUCzaHIEUCH",
    "yTHIEUTHrRIEUL-SSANGKIYEOKxKIYEOK-HIEUHrSSANGRIEUL-KHIEUKHrRIEUL-MIEUM-HIEUHxPIEUP-TIKEUTzePHIEUPHxYES",
    "IEUNGzaORINHIEUH-HIEUHrKAPYEOUNRIEULrMIEUM-NIEUNxSSANGNIEUNrSSANGMIEUMrMIEUM-PIEUP-SIOSxCIEUCrPIEUP-TI",
    "KEUTxRIEUL-PHIEUPHxMIEUMrSSANGPIEUPrPIEUP-SIOS-TIKEUTxCIEUCyHIEUCHrSIOS-MIEUMwKAPYEOUNPIEUPsSANGSIOS-K",
    "IYEOKzcTIKEUTsIOS-PANSIOSwCIEUCxHIEUCHwTHIEUTHwHIEUHrPANSIOS-PIEUPzaKAPYEOUNPIEUPrYESIEUNG-MIEUMzbHIEU",
    "HrCIEUC-PIEUPxSSANGPIEUPrSSANGCIEUCrPHIEUPH-SIOSzaTHIEUTH"]),
  (0xFB00, ["aLATIN SMALL LIGATURE FFwIwLwFIxLvLONG S TvST"]),
  (0xFB13, ["aARMENIAN SMALL LIGATURE MEN NOWzdECHzdINIyVEW NOWyMEN XEH?????aHEBREW LETTER YOD WITH HIRIQhP",
    "OINT JUDEO-SPANISH VARIKAhLIGATURE YIDDISH YOD YOD PATAHiETTER ALTERNATIVE AYINoWIDE ALEFtDALETtHEtKAF",
    "tLAMEDtFINAL MEMtRESHtTAVoALTERNATIVE PLUS SIGNoSHIN WITH SHIN DOTzaIN DOTyDAGESH AND SHIN DOTzlIN DOT",
    "oALEF WITH PATAHyQAMATSyMAPIQoBET WITH DAGESHoGIMEL WITH DAGESHoDALET WITH DAGESHoHE WITH MAPIQoVAV WI",
    "TH DAGESHoZAYIN WITH DAGESH?oTET WITH DAGESHoYOD WITH DAGESHoFINAL KAF WITH DAGESHoKAF WITH DAGESHoLAM",
    "ED WITH DAGESH?oMEM WITH DAGESH?oNUN WITH DAGESHoSAMEKH WITH DAGESH?oFINAL PE WITH DAGESHoPE WITH DAGE",
    "SH?oTSADI WITH DAGESHoQOF WITH DAGESHoRESH WITH DAGESHoSHIN WITH DAGESHoTAV WITH DAGESHoVAV WITH HOLAM",
    "oBET WITH RAFEoKAF WITH RAFEoPE WITH RAFEiIGATURE ALEF LAMEDaARABIC LETTER ALEF WASLA ISOLATED FORMzaF",
    "INAL FORMoBEEH ISOLATED FORMtFINAL FORMtINITIAL FORMtMEDIAL FORMoPEH ISOLATED FORMsFINAL FORMsINITIAL ",
    "FORMsMEDIAL FORMoBEHEH ISOLATED FORMuFINAL FORMuINITIAL FORMuMEDIAL FORMoTTEHEH ISOLATED FORMvFINAL FO",
    "RMvINITIAL FORMvMEDIAL FORMpEHEH ISOLATED FORMuFINAL FORMuINITIAL FORMuMEDIAL FORMpTEH ISOLATED FORMtF",
    "INAL FORMtINITIAL FORMtMEDIAL FORMoVEH ISOLATED FORMsFINAL FORMsINITIAL FORMsMEDIAL FORMoPEHEH ISOLATE",
    "D FORMuFINAL FORMuINITIAL FORMuMEDIAL FORMoDYEH ISOLATED FORMtFINAL FORMtINITIAL FORMtMEDIAL FORMoNYEH",
    " ISOLATED FORMtFINAL FORMtINITIAL FORMtMEDIAL FORMoTCHEH ISOLATED FORMuFINAL FORMuINITIAL FORMuMEDIAL ",
    "FORMtEH ISOLATED FORMwFINAL FORMwINITIAL FORMwMEDIAL FORMoDDAHAL ISOLATED FORMvFINAL FORMpAHAL ISOLATE",
    "D FORMuFINAL FORMpUL ISOLATED FORMsFINAL FORMpDAL ISOLATED FORMtFINAL FORMoJEH ISOLATED FORMsFINAL FOR",
    "MoRREH ISOLATED FORMtFINAL FORMoKEHEH ISOLATED FORMuFINAL FORMuINITIAL FORMuMEDIAL FORMoGAF ISOLATED F",
    "ORMsFINAL FORMsINITIAL FORMsMEDIAL FORMpUEH ISOLATED FORMtFINAL FORMtINITIAL FORMtMEDIAL FORMoNGOEH IS",
    "OLATED FORMuFINAL FORMuINITIAL FORMuMEDIAL FORMpOON GHUNNA ISOLATED FORMzbFINAL FORMoRNOON ISOLATED FO",
    "RMuFINAL FORMuINITIAL FORMuMEDIAL FORMoHEH WITH YEH ABOVE ISOLATED FORMziFINAL FORMsGOAL ISOLATED FORM",
    "xFINAL FORMxINITIAL FORMxMEDIAL FORMsDOACHASHMEE ISOLATED FORMzfFINAL FORMzfINITIAL FORMzfMEDIAL FORMo",
    "YEH BARREE ISOLATED FORMzaFINAL FORMzaWITH HAMZA ABOVE ISOLATED FORMzrFINAL FORMhSYMBOL DOT ABOVEsBELO",
    "WoTWO DOTS ABOVExBELOWpHREE DOTS ABOVEzaBELOWzaPOINTING DOWNWARDS ABOVEztBELOWoFOUR DOTS ABOVEyBELOWoD",
    "OUBLE VERTICAL BAR BELOWoTWO DOTS VERTICALLY ABOVEzjBELOWoRINGoSMALL TAH ABOVEyBELOWoWASLA ABOVE"]),
  (0xFBD3, ["aARABIC LETTER NG ISOLATED FORMrFINAL FORMrINITIAL FORMrMEDIAL FORMoU ISOLATED FORMqFINAL FORM",
    "oOE ISOLATED FORMrFINAL FORMoYU ISOLATED FORMrFINAL FORMoU WITH HAMZA ABOVE ISOLATED FORMoVE ISOLATED ",
    "FORMrFINAL FORMoKIRGHIZ OE ISOLATED FORMzaFINAL FORMwYU ISOLATED FORMzaFINAL FORMoE ISOLATED FORMqFINA",
    "L FORMqINITIAL FORMqMEDIAL FORMoUIGHUR KAZAKH KIRGHIZ ALEF MAKSURA INITIAL FORMzyMEDIAL FORMiIGATURE Y",
    "EH WITH HAMZA ABOVE WITH ALEF ISOLATED FORMzwFINAL FORMzsE ISOLATED FORMzuFINAL FORMzrWAW ISOLATED FOR",
    "MzvFINAL FORMzrU ISOLATED FORMztFINAL FORMzrOE ISOLATED FORMzuFINAL FORMzrYU ISOLATED FORMzuFINAL FORM",
    "zrE ISOLATED FORMztFINAL FORMztINITIAL FORMqUIGHUR KIRGHIZ YEH WITH HAMZA ABOVE WITH ALEF MAKSURA ISOL",
    "ATED FORMzzuFINAL FORMzzuINITIAL FORMiETTER FARSI YEH ISOLATED FORMyFINAL FORMyINITIAL FORMyMEDIAL FOR",
    "MiIGATURE YEH WITH HAMZA ABOVE WITH JEEM ISOLATED FORMzrHAH ISOLATED FORMzrMEEM ISOLATED FORMzrALEF MA",
    "KSURA ISOLATED FORMzrYEH ISOLATED FORMqBEH WITH JEEM ISOLATED FORMzaHAH ISOLATED FORMzaKHAH ISOLATED F",
    "ORMzaMEEM ISOLATED FORMzaALEF MAKSURA ISOLATED FORMzaYEH ISOLATED FORMqTEH WITH JEEM ISOLATED FORMzaHA",
    "H ISOLATED FORMzaKHAH ISOLATED FORMzaMEEM ISOLATED FORMzaALEF MAKSURA ISOLATED FORMzaYEH ISOLATED FORM",
    "rHEH WITH JEEM ISOLATED FORMzbMEEM ISOLATED FORMzbALEF MAKSURA ISOLATED FORMzbYEH ISOLATED FORMqJEEM W",
    "ITH HAH ISOLATED FORMzbMEEM ISOLATED FORMqHAH WITH JEEM ISOLATED FORMzaMEEM ISOLATED FORMqKHAH WITH JE",
    "EM ISOLATED FORMzbHAH ISOLATED FORMzbMEEM ISOLATED FORMqSEEN WITH JEEM ISOLATED FORMzbHAH ISOLATED FOR",
    "MzbKHAH ISOLATED FORMzbMEEM ISOLATED FORMrAD WITH HAH ISOLATED FORMzaMEEM ISOLATED FORMqDAD WITH JEEM ",
    "ISOLATED FORMzaHAH ISOLATED FORMzaKHAH ISOLATED FORMzaMEEM ISOLATED FORMqTAH WITH HAH ISOLATED FORMzaM",
    "EEM ISOLATED FORMqZAH WITH MEEM ISOLATED FORMqAIN WITH JEEM ISOLATED FORMzaMEEM ISOLATED FORMqGHAIN WI",
    "TH JEEM ISOLATED FORMzcMEEM ISOLATED FORMqFEH WITH JEEM ISOLATED FORMzaHAH ISOLATED FORMzaKHAH ISOLATE",
    "D FORMzaMEEM ISOLATED FORMzaALEF MAKSURA ISOLATED FORMzaYEH ISOLATED FORMqQAF WITH HAH ISOLATED FORMza",
    "MEEM ISOLATED FORMzaALEF MAKSURA ISOLATED FORMzaYEH ISOLATED FORMqKAF WITH ALEF ISOLATED FORMzaJEEM IS",
    "OLATED FORMzaHAH ISOLATED FORMzaKHAH ISOLATED FORMzaLAM ISOLATED FORMzaMEEM ISOLATED FORMzaALEF MAKSUR",
    "A ISOLATED FORMzaYEH ISOLATED FORMqLAM WITH JEEM ISOLATED FORMzaHAH ISOLATED FORMzaKHAH ISOLATED FORMz",
    "aMEEM ISOLATED FORMzaALEF MAKSURA ISOLATED FORMzaYEH ISOLATED FORMqMEEM WITH JEEM ISOLATED FORMzbHAH I",
    "SOLATED FORMzbKHAH ISOLATED FORMzbMEEM ISOLATED FORMzbALEF MAKSURA ISOLATED FORMzbYEH ISOLATED FORMqNO",
    "ON WITH JEEM ISOLATED FORMzbHAH ISOLATED FORMzbKHAH ISOLATED FORMzbMEEM ISOLATED FORMzbALEF MAKSURA IS",
    "OLATED FORMzbYEH ISOLATED FORMqHEH WITH JEEM ISOLATED FORMzaMEEM ISOLATED FORMzaALEF MAKSURA ISOLATED ",
    "FORMzaYEH ISOLATED FORMqYEH WITH JEEM ISOLATED FORMzaHAH ISOLATED FORMzaKHAH ISOLATED FORMzaMEEM ISOLA",
    "TED FORMzaALEF MAKSURA ISOLATED FORMzaYEH ISOLATED FORMqTHAL WITH SUPERSCRIPT ALEF ISOLATED FORMqREH W",
    "ITH SUPERSCRIPT ALEF ISOLATED FORMqALEF MAKSURA WITH SUPERSCRIPT ALEF ISOLATED FORMqSHADDA WITH DAMMAT",
    "AN ISOLATED FORMzdKASRATAN ISOLATED FORMzdFATHA ISOLATED FORMzdDAMMA ISOLATED FORMzdKASRA ISOLATED FOR",
    "MzdSUPERSCRIPT ALEF ISOLATED FORMqYEH WITH HAMZA ABOVE WITH REH FINAL FORMzrZAIN FINAL FORMzrMEEM FINA",
    "L FORMzrNOON FINAL FORMzrALEF MAKSURA FINAL FORMzrYEH FINAL FORMqBEH WITH REH FINAL FORMzaZAIN FINAL F",
    "ORMzaMEEM FINAL FORMzaNOON FINAL FORMzaALEF MAKSURA FINAL FORMzaYEH FINAL FORMqTEH WITH REH FINAL FORM",
    "zaZAIN FINAL FORMzaMEEM FINAL FORMzaNOON FINAL FORMzaALEF MAKSURA FINAL FORMzaYEH FINAL FORMrHEH WITH ",
    "REH FINAL FORMzbZAIN FINAL FORMzbMEEM FINAL FORMzbNOON FINAL FORMzbALEF MAKSURA FINAL FORMzbYEH FINAL ",
    "FORMqFEH WITH ALEF MAKSURA FINAL FORMzaYEH FINAL FORMqQAF WITH ALEF MAKSURA FINAL FORMzaYEH FINAL FORM",
    "qKAF WITH ALEF FINAL FORMzaLAM FINAL FORMzaMEEM FINAL FORMzaALEF MAKSURA FINAL FORMzaYEH FINAL FORMqLA",
    "M WITH MEEM FINAL FORMzaALEF MAKSURA FINAL FORMzaYEH FINAL FORMqMEEM WITH ALEF FINAL FORMzbMEEM FINAL ",
    "FORMqNOON WITH REH FINAL FORMzbZAIN FINAL FORMzbMEEM FINAL FORMzbNOON FINAL FORMzbALEF MAKSURA FINAL F",
    "ORMzbYEH FINAL FORMqALEF MAKSURA WITH SUPERSCRIPT ALEF FINAL FORMqYEH WITH REH FINAL FORMzaZAIN FINAL ",
    "FORMzaMEEM FINAL FORMzaNOON FINAL FORMzaALEF MAKSURA FINAL FORMzaYEH FINAL FORMzaHAMZA ABOVE WITH JEEM",
    " INITIAL FORMzrHAH INITIAL FORMzrKHAH INITIAL FORMzrMEEM INITIAL FORMzrHEH INITIAL FORMqBEH WITH JEEM ",
    "INITIAL FORMzaHAH INITIAL FORMzaKHAH INITIAL FORMzaMEEM INITIAL FORMzaHEH INITIAL FORMqTEH WITH JEEM I",
    "NITIAL FORMzaHAH INITIAL FORMzaKHAH INITIAL FORMzaMEEM INITIAL FORMzaHEH INITIAL FORMrHEH WITH MEEM IN",
    "ITIAL FORMqJEEM WITH HAH INITIAL FORMzbMEEM INITIAL FORMqHAH WITH JEEM INITIAL FORMzaMEEM INITIAL FORM",
    "qKHAH WITH JEEM INITIAL FORMzbMEEM INITIAL FORMqSEEN WITH JEEM INITIAL FORMzbHAH INITIAL FORMzbKHAH IN",
    "ITIAL FORMzbMEEM INITIAL FORMrAD WITH HAH INITIAL FORMzaKHAH INITIAL FORMzaMEEM INITIAL FORMqDAD WITH ",
    "JEEM INITIAL FORMzaHAH INITIAL FORMzaKHAH INITIAL FORMzaMEEM INITIAL FORMqTAH WITH HAH INITIAL FORMqZA",
    "H WITH MEEM INITIAL FORMqAIN WITH JEEM INITIAL FORMzaMEEM INITIAL FORMqGHAIN WITH JEEM INITIAL FORMzcM",
    "EEM INITIAL FORMqFEH WITH JEEM INITIAL FORMzaHAH INITIAL FORMzaKHAH INITIAL FORMzaMEEM INITIAL FORMqQA",
    "F WITH HAH INITIAL FORMzaMEEM INITIAL FORMqKAF WITH JEEM INITIAL FORMzaHAH INITIAL FORMzaKHAH INITIAL ",
    "FORMzaLAM INITIAL FORMzaMEEM INITIAL FORMqLAM WITH JEEM INITIAL FORMzaHAH INITIAL FORMzaKHAH INITIAL F",
    "ORMzaMEEM INITIAL FORMzaHEH INITIAL FORMqMEEM WITH JEEM INITIAL FORMzbHAH INITIAL FORMzbKHAH INITIAL F",
    "ORMzbMEEM INITIAL FORMqNOON WITH JEEM INITIAL FORMzbHAH INITIAL FORMzbKHAH INITIAL FORMzbMEEM INITIAL ",
    "FORMzbHEH INITIAL FORMqHEH WITH JEEM INITIAL FORMzaMEEM INITIAL FORMzaSUPERSCRIPT ALEF INITIAL FORMqYE",
    "H WITH JEEM INITIAL FORMzaHAH INITIAL FORMzaKHAH INITIAL FORMzaMEEM INITIAL FORMzaHEH INITIAL FORMzbAM",
    "ZA ABOVE WITH MEEM MEDIAL FORMzrHEH MEDIAL FORMqBEH WITH MEEM MEDIAL FORMzaHEH MEDIAL FORMqTEH WITH ME",
    "EM MEDIAL FORMzaHEH MEDIAL FORMrHEH WITH MEEM MEDIAL FORMzbHEH MEDIAL FORMqSEEN WITH MEEM MEDIAL FORMz",
    "bHEH MEDIAL FORMrHEEN WITH MEEM MEDIAL FORMzcHEH MEDIAL FORMqKAF WITH LAM MEDIAL FORMzaMEEM MEDIAL FOR",
    "MqLAM WITH MEEM MEDIAL FORMqNOON WITH MEEM MEDIAL FORMzbHEH MEDIAL FORMqYEH WITH MEEM MEDIAL FORMzaHEH",
    " MEDIAL FORMqSHADDA WITH FATHA MEDIAL FORMzdDAMMA MEDIAL FORMzdKASRA MEDIAL FORMqTAH WITH ALEF MAKSURA",
    " ISOLATED FORMzaYEH ISOLATED FORMqAIN WITH ALEF MAKSURA ISOLATED FORMzaYEH ISOLATED FORMqGHAIN WITH AL",
    "EF MAKSURA ISOLATED FORMzcYEH ISOLATED FORMqSEEN WITH ALEF MAKSURA ISOLATED FORMzbYEH ISOLATED FORMrHE",
    "EN WITH ALEF MAKSURA ISOLATED FORMzcYEH ISOLATED FORMqHAH WITH ALEF MAKSURA ISOLATED FORMzaYEH ISOLATE",
    "D FORMqJEEM WITH ALEF MAKSURA ISOLATED FORMzbYEH ISOLATED FORMqKHAH WITH ALEF MAKSURA ISOLATED FORMzbY",
    "EH ISOLATED FORMqSAD WITH ALEF MAKSURA ISOLATED FORMzaYEH ISOLATED FORMqDAD WITH ALEF MAKSURA ISOLATED",
    " FORMzaYEH ISOLATED FORMqSHEEN WITH JEEM ISOLATED FORMzcHAH ISOLATED FORMzcKHAH ISOLATED FORMzcMEEM IS",
    "OLATED FORMzcREH ISOLATED FORMrEEN WITH REH ISOLATED FORMrAD WITH REH ISOLATED FORMqDAD WITH REH ISOLA",
    "TED FORMqTAH WITH ALEF MAKSURA FINAL FORMzaYEH FINAL FORMqAIN WITH ALEF MAKSURA FINAL FORMzaYEH FINAL ",
    "FORMqGHAIN WITH ALEF MAKSURA FINAL FORMzcYEH FINAL FORMqSEEN WITH ALEF MAKSURA FINAL FORMzbYEH FINAL F",
    "ORMrHEEN WITH ALEF MAKSURA FINAL FORMzcYEH FINAL FORMqHAH WITH ALEF MAKSURA FINAL FORMzaYEH FINAL FORM",
    "qJEEM WITH ALEF MAKSURA FINAL FORMzbYEH FINAL FORMqKHAH WITH ALEF MAKSURA FINAL FORMzbYEH FINAL FORMqS",
    "AD WITH ALEF MAKSURA FINAL FORMzaYEH FINAL FORMqDAD WITH ALEF MAKSURA FINAL FORMzaYEH FINAL FORMqSHEEN",
    " WITH JEEM FINAL FORMzcHAH FINAL FORMzcKHAH FINAL FORMzcMEEM FINAL FORMzcREH FINAL FORMrEEN WITH REH F",
    "INAL FORMrAD WITH REH FINAL FORMqDAD WITH REH FINAL FORMqSHEEN WITH JEEM INITIAL FORMzcHAH INITIAL FOR",
    "MzcKHAH INITIAL FORMzcMEEM INITIAL FORMrEEN WITH HEH INITIAL FORMrHEEN WITH HEH INITIAL FORMqTAH WITH ",
    "MEEM INITIAL FORMqSEEN WITH JEEM MEDIAL FORMzbHAH MEDIAL FORMzbKHAH MEDIAL FORMrHEEN WITH JEEM MEDIAL ",
    "FORMzcHAH MEDIAL FORMzcKHAH MEDIAL FORMqTAH WITH MEEM MEDIAL FORMqZAH WITH MEEM MEDIAL FORMqALEF WITH ",
    "FATHATAN FINAL FORMzkISOLATED FORMaORNATE LEFT PARENTHESIShRIGHT PARENTHESISaARABIC LIGATURE RAHIMAHU ",
    "ALLAAHsDI ALLAAHU ANHzhAAzhUMzjAAziNNAqSALLALLAAHU ALAYHI WA-AALIHqALAYHI AS-SALAAMwM AS-SALAAMxAA AS-",
    "SALAAMw AS-SALAATU WAS-SALAAMqQUDDISA SIRRAHqSALLALLAHU ALAYHI WAAALIHEE WA-SALLAMqALAYHAA AS-SALAAMqT",
    "ABAARAKA WA-TAAALAAqRAHIMAHUM ALLAAHqTEH WITH JEEM WITH MEEM INITIAL FORMzaHAH WITH JEEM FINAL FORMzoI",
    "NITIAL FORMzjMEEM INITIAL FORMzaKHAH WITH MEEM INITIAL FORMzaMEEM WITH JEEM INITIAL FORMzkHAH INITIAL ",
    "FORMzkKHAH INITIAL FORMqJEEM WITH MEEM WITH HAH FINAL FORMzpINITIAL FORMqHAH WITH MEEM WITH YEH FINAL ",
    "FORMzkALEF MAKSURA FINAL FORMqSEEN WITH HAH WITH JEEM INITIAL FORMzbJEEM WITH HAH INITIAL FORMzlALEF M",
    "AKSURA FINAL FORMzbMEEM WITH HAH FINAL FORMzpINITIAL FORMzlJEEM INITIAL FORMzlMEEM FINAL FORMzqINITIAL",
    " FORMrAD WITH HAH WITH HAH FINAL FORMznINITIAL FORMzaMEEM WITH MEEM FINAL FORMrHEEN WITH HAH WITH MEEM",
    " FINAL FORMzqINITIAL FORMzcJEEM WITH YEH FINAL FORMzcMEEM WITH KHAH FINAL FORMzrINITIAL FORMzmMEEM FIN",
    "AL FORMzrINITIAL FORMqDAD WITH HAH WITH ALEF MAKSURA FINAL FORMzaKHAH WITH MEEM FINAL FORMzpINITIAL FO",
    "RMqTAH WITH MEEM WITH HAH FINAL FORMzoINITIAL FORMzkMEEM INITIAL FORMzkYEH FINAL FORMqAIN WITH JEEM WI",
    "TH MEEM FINAL FORMzaMEEM WITH MEEM FINAL FORMzpINITIAL FORMzkALEF MAKSURA FINAL FORMqGHAIN WITH MEEM W",
    "ITH MEEM FINAL FORMzmYEH FINAL FORMzmALEF MAKSURA FINAL FORMqFEH WITH KHAH WITH MEEM FINAL FORMzpINITI",
    "AL FORMqQAF WITH MEEM WITH HAH FINAL FORMzkMEEM FINAL FORMqLAM WITH HAH WITH MEEM FINAL FORMzjYEH FINA",
    "L FORMzjALEF MAKSURA FINAL FORMzaJEEM WITH JEEM INITIAL FORMzpFINAL FORMzaKHAH WITH MEEM FINAL FORMzpI",
    "NITIAL FORMzaMEEM WITH HAH FINAL FORMzoINITIAL FORMqMEEM WITH HAH WITH JEEM INITIAL FORMzkMEEM INITIAL",
    " FORMzkYEH FINAL FORMzbJEEM WITH HAH INITIAL FORMzlMEEM INITIAL FORMzbKHAH WITH JEEM INITIAL FORMzlMEE",
    "M INITIAL FORM??zbJEEM WITH KHAH INITIAL FORMqHEH WITH MEEM WITH JEEM INITIAL FORMzkMEEM INITIAL FORMq",
    "NOON WITH HAH WITH MEEM INITIAL FORMzkALEF MAKSURA FINAL FORMzbJEEM WITH MEEM FINAL FORMzqINITIAL FORM",
    "zlALEF MAKSURA FINAL FORMzbMEEM WITH YEH FINAL FORMzlALEF MAKSURA FINAL FORMqYEH WITH MEEM WITH MEEM F",
    "INAL FORMzpINITIAL FORMqBEH WITH KHAH WITH YEH FINAL FORMqTEH WITH JEEM WITH YEH FINAL FORMzkALEF MAKS",
    "URA FINAL FORMzaKHAH WITH YEH FINAL FORMzkALEF MAKSURA FINAL FORMzaMEEM WITH YEH FINAL FORMzkALEF MAKS",
    "URA FINAL FORMqJEEM WITH MEEM WITH YEH FINAL FORMzbHAH WITH ALEF MAKSURA FINAL FORMzbMEEM WITH ALEF MA",
    "KSURA FINAL FORMqSEEN WITH KHAH WITH ALEF MAKSURA FINAL FORMrAD WITH HAH WITH YEH FINAL FORMrHEEN WITH",
    " HAH WITH YEH FINAL FORMqDAD WITH HAH WITH YEH FINAL FORMqLAM WITH JEEM WITH YEH FINAL FORMzaMEEM WITH",
    " YEH FINAL FORMqYEH WITH HAH WITH YEH FINAL FORMzaJEEM WITH YEH FINAL FORMzaMEEM WITH YEH FINAL FORMqM",
    "EEM WITH MEEM WITH YEH FINAL FORMqQAF WITH MEEM WITH YEH FINAL FORMqNOON WITH HAH WITH YEH FINAL FORMq",
    "QAF WITH MEEM WITH HAH INITIAL FORMqLAM WITH HAH WITH MEEM INITIAL FORMqAIN WITH MEEM WITH YEH FINAL F",
    "ORMqKAF WITH MEEM WITH YEH FINAL FORMqNOON WITH JEEM WITH HAH INITIAL FORMqMEEM WITH KHAH WITH YEH FIN",
    "AL FORMqLAM WITH JEEM WITH MEEM INITIAL FORMqKAF WITH MEEM WITH MEEM FINAL FORMqLAM WITH JEEM WITH MEE",
    "M FINAL FORMqNOON WITH JEEM WITH HAH FINAL FORMqJEEM WITH HAH WITH YEH FINAL FORMqHAH WITH JEEM WITH Y",
    "EH FINAL FORMqMEEM WITH JEEM WITH YEH FINAL FORMqFEH WITH MEEM WITH YEH FINAL FORMqBEH WITH HAH WITH Y",
    "EH FINAL FORMqKAF WITH MEEM WITH MEEM INITIAL FORMqAIN WITH JEEM WITH MEEM INITIAL FORMqSAD WITH MEEM ",
    "WITH MEEM INITIAL FORMrEEN WITH KHAH WITH YEH FINAL FORMqNOON WITH JEEM WITH YEH FINAL FORM???????qSAL",
    "AAMUHU ALAYNAA"]),
  (0xFDF0, ["aARABIC LIGATURE SALLA USED AS KORANIC STOP SIGN ISOLATED FORMqQALA USED AS KORANIC STOP SIGN ",
    "ISOLATED FORMqALLAH ISOLATED FORMrKBAR ISOLATED FORMqMOHAMMAD ISOLATED FORMqSALAM ISOLATED FORMqRASOUL",
    " ISOLATED FORMqALAYHE ISOLATED FORMqWASALLAM ISOLATED FORMqSALLA ISOLATED FORMvLLAHOU ALAYHE WASALLAMq",
    "JALLAJALALOUHOUaRIAL SIGNaARABIC LIGATURE BISMILLAH AR-RAHMAN AR-RAHEEMqSUBHAANAHU WA TAAALAAqAZZA WA ",
    "JALLaVARIATION SELECTOR-1t2t3t4t5t6t7t8t9t10u1u2u3u4u5u6aPRESENTATION FORM FOR VERTICAL COMMAzgIDEOGRA",
    "PHIC COMMAzsFULL STOPzgCOLONzgSEMICOLONzgEXCLAMATION MARKzgQUESTION MARKzgLEFT WHITE LENTICULAR BRACKE",
    "TzgRIGHT WHITE LENTICULAR BRAKCETzgHORIZONTAL ELLIPSIS??????aCOMBINING LIGATURE LEFT HALFtRIGHT HALFkD",
    "OUBLE TILDE LEFT HALFxRIGHT HALFkMACRON LEFT HALFrRIGHT HALFkCONJOINING MACRONkLIGATURE LEFT HALF BELO",
    "WtRIGHT HALF BELOWkTILDE LEFT HALF BELOWqRIGHT HALF BELOWkMACRON LEFT HALF BELOWrRIGHT HALF BELOWkCONJ",
    "OINING MACRON BELOWlYRILLIC TITLO LEFT HALFzaRIGHT HALFaPRESENTATION FORM FOR VERTICAL TWO DOT LEADERz",
    "gEM DASHzhN DASHzgLOW LINEzgWAVY LOW LINEzgLEFT PARENTHESISzgRIGHT PARENTHESISzgLEFT CURLY BRACKETzgRI",
    "GHT CURLY BRACKETzgLEFT TORTOISE SHELL BRACKETzgRIGHT TORTOISE SHELL BRACKETzgLEFT BLACK LENTICULAR BR",
    "ACKETzgRIGHT BLACK LENTICULAR BRACKETzgLEFT DOUBLE ANGLE BRACKETzgRIGHT DOUBLE ANGLE BRACKETzgLEFT ANG",
    "LE BRACKETzgRIGHT ANGLE BRACKETzgLEFT CORNER BRACKETzgRIGHT CORNER BRACKETzgLEFT WHITE CORNER BRACKETz",
    "gRIGHT WHITE CORNER BRACKETaSESAME DOTaWHITE SESAME DOTaPRESENTATION FORM FOR VERTICAL LEFT SQUARE BRA",
    "CKETzgRIGHT SQUARE BRACKETaDASHED OVERLINEaCENTRELINE OVERLINEaWAVY OVERLINEaDOUBLE WAVY OVERLINEbASHE",
    "D LOW LINEaCENTRELINE LOW LINEaWAVY LOW LINEaSMALL COMMAgIDEOGRAPHIC COMMAgFULL STOP?gSEMICOLONgCOLONg",
    "QUESTION MARKgEXCLAMATION MARKhM DASHgLEFT PARENTHESISgRIGHT PARENTHESISgLEFT CURLY BRACKETgRIGHT CURL",
    "Y BRACKETgLEFT TORTOISE SHELL BRACKETgRIGHT TORTOISE SHELL BRACKETgNUMBER SIGNgAMPERSANDhSTERISKgPLUS ",
    "SIGNgHYPHEN-MINUSgLESS-THAN SIGNgGREATER-THAN SIGNgEQUALS SIGN?gREVERSE SOLIDUSgDOLLAR SIGNgPERCENT SI",
    "GNgCOMMERCIAL AT????aARABIC FATHATAN ISOLATED FORMhTATWEEL WITH FATHATAN ABOVEhDAMMATAN ISOLATED FORMh",
    "TAIL FRAGMENThKASRATAN ISOLATED FORM?hFATHA ISOLATED FORMnMEDIAL FORMhDAMMA ISOLATED FORMnMEDIAL FORMh",
    "KASRA ISOLATED FORMnMEDIAL FORMhSHADDA ISOLATED FORMoMEDIAL FORMiUKUN ISOLATED FORMnMEDIAL FORMhLETTER",
    " HAMZA ISOLATED FORMoALEF WITH MADDA ABOVE ISOLATED FORMzlFINAL FORMyHAMZA ABOVE ISOLATED FORMzlFINAL ",
    "FORMoWAW WITH HAMZA ABOVE ISOLATED FORMzkFINAL FORMoALEF WITH HAMZA BELOW ISOLATED FORMzlFINAL FORMoYE",
    "H WITH HAMZA ABOVE ISOLATED FORMzkFINAL FORMzkINITIAL FORMzkMEDIAL FORMoALEF ISOLATED FORMtFINAL FORMo",
    "BEH ISOLATED FORMsFINAL FORMsINITIAL FORMsMEDIAL FORMoTEH MARBUTA ISOLATED FORMzbFINAL FORMsISOLATED F",
    "ORMsFINAL FORMsINITIAL FORMsMEDIAL FORMpHEH ISOLATED FORMtFINAL FORMtINITIAL FORMtMEDIAL FORMoJEEM ISO",
    "LATED FORMtFINAL FORMtINITIAL FORMtMEDIAL FORMoHAH ISOLATED FORMsFINAL FORMsINITIAL FORMsMEDIAL FORMoK",
    "HAH ISOLATED FORMtFINAL FORMtINITIAL FORMtMEDIAL FORMoDAL ISOLATED FORMsFINAL FORMoTHAL ISOLATED FORMt",
    "FINAL FORMoREH ISOLATED FORMsFINAL FORMoZAIN ISOLATED FORMtFINAL FORMoSEEN ISOLATED FORMtFINAL FORMtIN",
    "ITIAL FORMtMEDIAL FORMpHEEN ISOLATED FORMuFINAL FORMuINITIAL FORMuMEDIAL FORMpAD ISOLATED FORMsFINAL F",
    "ORMsINITIAL FORMsMEDIAL FORMoDAD ISOLATED FORMsFINAL FORMsINITIAL FORMsMEDIAL FORMoTAH ISOLATED FORMsF",
    "INAL FORMsINITIAL FORMsMEDIAL FORMoZAH ISOLATED FORMsFINAL FORMsINITIAL FORMsMEDIAL FORMoAIN ISOLATED ",
    "FORMsFINAL FORMsINITIAL FORMsMEDIAL FORMoGHAIN ISOLATED FORMuFINAL FORMuINITIAL FORMuMEDIAL FORMoFEH I",
    "SOLATED FORMsFINAL FORMsINITIAL FORMsMEDIAL FORMoQAF ISOLATED FORMsFINAL FORMsINITIAL FORMsMEDIAL FORM",
    "oKAF ISOLATED FORMsFINAL FORMsINITIAL FORMsMEDIAL FORMoLAM ISOLATED FORMsFINAL FORMsINITIAL FORMsMEDIA",
    "L FORMoMEEM ISOLATED FORMtFINAL FORMtINITIAL FORMtMEDIAL FORMoNOON ISOLATED FORMtFINAL FORMtINITIAL FO",
    "RMtMEDIAL FORMoHEH ISOLATED FORMsFINAL FORMsINITIAL FORMsMEDIAL FORMoWAW ISOLATED FORMsFINAL FORMoALEF",
    " MAKSURA ISOLATED FORMzcFINAL FORMoYEH ISOLATED FORMsFINAL FORMsINITIAL FORMsMEDIAL FORMiIGATURE LAM W",
    "ITH ALEF WITH MADDA ABOVE ISOLATED FORMzwFINAL FORMzkHAMZA ABOVE ISOLATED FORMzwFINAL FORMzqBELOW ISOL",
    "ATED FORMzwFINAL FORMzfISOLATED FORMzfFINAL FORM??aZERO WIDTH NO-BREAK SPACE?aFULLWIDTH EXCLAMATION MA",
    "RKkQUOTATION MARKkNUMBER SIGNkDOLLAR SIGNkPERCENT SIGNkAMPERSANDlPOSTROPHEkLEFT PARENTHESISkRIGHT PARE",
    "NTHESISkASTERISKkPLUS SIGNkCOMMAkHYPHEN-MINUSkFULL STOPkSOLIDUSkDIGIT ZEROqONEqTWOrHREEqFOURrIVEqSIXrE",
    "VENqEIGHTqNINEkCOLONkSEMICOLONkLESS-THAN SIGNkEQUALS SIGNkGREATER-THAN SIGNkQUESTION MARKkCOMMERCIAL A",
    "TkLATIN CAPITAL LETTER AzgBzgCzgDzgEzgFzgGzgHzgIzgJzgKzgLzgMzgNzgOzgPzgQzgRzgSzgTzgUzgVzgWzgXzgYzgZlEF",
    "T SQUARE BRACKETkREVERSE SOLIDUSlIGHT SQUARE BRACKETkCIRCUMFLEX ACCENTkLOW LINEkGRAVE ACCENTkLATIN SMA",
    "LL LETTER AzeBzeCzeDzeEzeFzeGzeHzeIzeJzeKzeLzeMzeNzeOzePzeQzeRzeSzeTzeUzeVzeWzeXzeYzeZlEFT CURLY BRACK",
    "ETkVERTICAL LINEkRIGHT CURLY BRACKETkTILDEkLEFT WHITE PARENTHESISkRIGHT WHITE PARENTHESISaHALFWIDTH ID",
    "EOGRAPHIC FULL STOPkLEFT CORNER BRACKETkRIGHT CORNER BRACKETkIDEOGRAPHIC COMMAkKATAKANA MIDDLE DOTtLET",
    "TER WOzbSMALL AzhIzhUzhEzhOzhYAziUziOzhTUs-HIRAGANA PROLONGED SOUND MARKs LETTER AzbIzbUzbEzbOzbKAzcIz",
    "cUzcEzcOzbSAzcIzcUzcEzcOzbTAzcIzcUzcEzcOzbNAzcIzcUzcEzcOzbHAzcIzcUzcEzcOzbMAzcIzcUzcEzcOzbYAzcUzcOzbRA",
    "zcIzcUzcEzcOzbWAzbNtVOICED SOUND MARKtSEMI-VOICED SOUND MARKkHANGUL FILLERrLETTER KIYEOKySSANGKIYEOKyK",
    "IYEOK-SIOSyNIEUNze-CIEUCzfHIEUHyTIKEUTySSANGTIKEUTyRIEULze-KIYEOKzfMIEUMzfPIEUPzfSIOSzfTHIEUTHzfPHIEUP",
    "HzfHIEUHyMIEUMyPIEUPySSANGPIEUPyPIEUP-SIOSySIOSzaSANGSIOSyIEUNGyCIEUCySSANGCIEUCyCHIEUCHyKHIEUKHyTHIEU",
    "THyPHIEUPHyHIEUH???yAzaEyYAzbEyEOyE??yYEOzaEyOyWAzbEyOE??yYOyUyWEOzaEzaIyYU??yEUyYIyI???aFULLWIDTH CEN",
    "T SIGNkPOUND SIGNkNOT SIGNkMACRONkBROKEN BARkYEN SIGNkWON SIGN?aHALFWIDTH FORMS LIGHT VERTICALkLEFTWAR",
    "DS ARROWkUPWARDS ARROWkRIGHTWARDS ARROWkDOWNWARDS ARROWkBLACK SQUAREkWHITE CIRCLE"]),
  (0xFFF9, ["aINTERLINEAR ANNOTATION ANCHORxSEPARATORxTERMINATORaOBJECT REPLACEMENT CHARACTERaREPLACEMENT C",
    "HARACTER??aLINEAR B SYLLABLE B008 Au38 Eu28 Iu61 Ou10 Uu01 DAu45 DEu07 DIu14 DOu51 DUv7 JAu46 JE?u36 J",
    "Ou65 JUu77 KAu44 KEu67 KIu70 KOu81 KUv0 MAu13 MEu73 MIu15 MOu23 MUu06 NAu24 NEu30 NIu52 NOv5 NUu03 PAu",
    "72 PEu39 PIu11 POu50 PUu16 QAu78 QEu21 QIu32 QO?u60 RAu27 REu53 RIu02 ROu26 RUu31 SAu09 SEu41 SIu12 SO",
    "u58 SUv9 TAu04 TEu37 TIu05 TOu69 TUu54 WAu75 WEu40 WIv2 WO?u17 ZAu74 ZE?u20 ZOv5 A2u43 A3u85 AUu71 DWE",
    "u90 DWOu48 NWAu29 PU2u62 PTEu76 RA2u33 RA3u68 RO2v6 TA2u87 TWEu91 TWO??lMBOL B018t9s22s34s47t9s56s63t4",
    "s79s82t3t6t9"])]

end CharacterName

end Text

end CodeBehind
