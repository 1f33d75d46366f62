import CodeBehind.Text.CharacterName.Block

/-!
# Character names: the historic scripts

The names of the scripts beyond the first plane.

## Main definitions

* `scripts`: The blocks.
-/

namespace CodeBehind

namespace Text

namespace CharacterName

/-- The blocks of the historic scripts. -/
def scripts : List Block := [
  (0x10080, ["aLINEAR B IDEOGRAM B100 MANv2 WOMANv4 DEERv5 EQUIDwF MAREwM STALLIONv6F EWEwM RAMv7F SHE-GOATw",
    "M HE-GOATv8F SOWwM BOARv9F COWwM BULLu20 WHEATv1 BARLEYv2 OLIVEv3 SPICEv5 CYPERUSjMONOGRAM B127 KAPOv8",
    " KANAKOjIDEOGRAM B130 OILv1 WINEv2jMONOGRAM B133 AREPAv5 MERIjIDEOGRAM B140 BRONZEv1 GOLDv2v5 WOOLv6u5",
    "0v1 HORNv2v3v4jMONOGRAM B156 TURO2jIDEOGRAM B157v8v9 CLOTHu60v1v2 GARMENTv3 ARMOURv4v5v6v7v8v9u70v1v2v",
    "3 MONTHv4v6 TREEv7v8v9u80v1v2v3v4v5v9u90v1 HELMETt220 FOOTSTOOLv5 BATHTUBu30 SPEARv1 ARROWv2v3 SWORDv4",
    "v6u40 WHEELED CHARIOTv1 CHARIOTv2 CHARIOT FRAMEv3 WHEELv5v6jMONOGRAM B247 DIPTEjIDEOGRAM B248v9u51v2v3",
    "v4 DARTv5v6v7v8v9sVESSEL B155zb200zd1zd2zd3zd4zd5zd6zd7zd8zd9zc10zd1zd2zd3zd4zd5zd6zd7zd8zd9zc21zd2zd6",
    "zd7zd8zd9zc50zb305?????aAEGEAN WORD SEPARATOR LINEwDOThCHECK MARK????hNUMBER ONEoTWOpHREEoFOURpIVEoSIX",
    "pEVENoEIGHToNINEoTENpWENTYpHIRTYoFORTYpIFTYoSIXTYpEVENTYoEIGHTYoNINETYoONE HUNDREDoTWO HUNDREDpHREE HU",
    "NDREDoFOUR HUNDREDpIVE HUNDREDoSIX HUNDREDpEVEN HUNDREDoEIGHT HUNDREDoNINE HUNDREDoONE THOUSANDoTWO TH",
    "OUSANDpHREE THOUSANDoFOUR THOUSANDpIVE THOUSANDoSIX THOUSANDpEVEN THOUSANDoEIGHT THOUSANDoNINE THOUSAN",
    "DoTEN THOUSANDpWENTY THOUSANDpHIRTY THOUSANDoFORTY THOUSANDpIFTY THOUSANDoSIXTY THOUSANDpEVENTY THOUSA",
    "NDoEIGHTY THOUSANDoNINETY THOUSAND???hWEIGHT BASE UNIToFIRST SUBUNIToSECOND SUBUNIToTHIRD SUBUNIToFOUR",
    "TH SUBUNIThDRY MEASURE FIRST SUBUNIThLIQUID MEASURE FIRST SUBUNIThMEASURE SECOND SUBUNITpTHIRD SUBUNIT",
    "aGREEK ACROPHONIC ATTIC ONE QUARTERzcHALFzcDRACHMAxFIVEzaFTYzaVE HUNDREDzdTHOUSANDzaFTY THOUSANDzaVE T",
    "ALENTSxTEN TALENTSxFIFTY TALENTSxONE HUNDRED TALENTSxFIVE HUNDRED TALENTSxONE THOUSAND TALENTSxFIVE TH",
    "OUSAND TALENTSzdSTATERSxTEN STATERSxFIFTY STATERSxONE HUNDRED STATERSxFIVE HUNDRED STATERSxONE THOUSAN",
    "D STATERSxTEN THOUSAND STATERSxFIFTY THOUSAND STATERSxTEN MNASrHERAEUM ONE PLETHRONrTHESPIAN ONErHERMI",
    "ONIAN ONErEPIDAUREAN TWOrTHESPIAN TWOrCYRENAIC TWO DRACHMASrEPIDAUREAN TWO DRACHMASrTROEZENIAN FIVEzdT",
    "ENzg ALTERNATE FORMrHERMIONIAN TENrMESSENIAN TENrTHESPIAN TENzcHIRTYsROEZENIAN FIFTYzi ALTERNATE FORMr",
    "HERMIONIAN FIFTYrTHESPIAN FIFTYzbONE HUNDREDzbTHREE HUNDREDrEPIDAUREAN FIVE HUNDREDrTROEZENIAN FIVE HU",
    "NDREDsHESPIAN FIVE HUNDREDrCARYSTIAN FIVE HUNDREDrNAXIAN FIVE HUNDREDrTHESPIAN ONE THOUSANDzbFIVE THOU",
    "SANDrDELPHIC FIVE MNASrSTRATIAN FIFTY MNASgONE HALF SIGNt ALTERNATE FORMgTWO THIRDS SIGNhHREE QUARTERS",
    " SIGNgYEAR SIGNgTALENT SIGNgDRACHMA SIGNgOBOL SIGNgTWO OBOLS SIGNhHREE OBOLS SIGNgFOUR OBOLS SIGNhIVE ",
    "OBOLS SIGNgMETRETES SIGNgKYATHOS BASE SIGNgLITRA SIGNgOUNKIA SIGNgXESTES SIGNgARTABE SIGNiOURA SIGNgGR",
    "AMMA SIGNgTRYBLION BASE SIGNgZERO SIGNgONE QUARTER SIGNgSINUSOID SIGNgINDICTION SIGNaNOMISMA SIGN?aROM",
    "AN SEXTANS SIGNgUNCIA SIGNgSEMUNCIA SIGNiXTULA SIGNgDIMIDIA SEXTULA SIGNgSILIQUA SIGNgDENARIUS SIGNgQU",
    "INARIUS SIGNgSESTERTIUS SIGNgDUPONDIUS SIGNgAS SIGNgCENTURIAL SIGNaASCIA SYMBOL???aGREEK SYMBOL TAU RH",
    "O"]),
  (0x101D0, ["aPHAISTOS DISC SIGN PEDESTRIANuLUMED HEADtTATTOOED HEADtCAPTIVEuHILDtWOMANtHELMETtGAUNTLETtTIA",
    "RAtARROWtBOWtSHIELDtCLUBtMANACLESvTTOCKtSAWtLIDtBOOMERANGtCARPENTRY PLANEtDOLIUMtCOMBtSLINGtCOLUMNtBEE",
    "HIVEtSHIPtHORNuIDEtBULLS LEGtCATtRAMtEAGLEtDOVEtTUNNYtBEEtPLANE TREEtVINEtPAPYRUStROSETTEtLILYtOX BACK",
    "tFLUTEtGRATERtSTRAINERuMALL AXEtWAVY BANDtCOMBINING OBLIQUE STROKE"]),
  (0x10280, ["aLYCIAN LETTER AoEoBpHoGoDoIoWoZoTHoJoKoQoLoMoNoMMoNNoUoPoKKoRoSoTpToANoENoHoX???aCARIAN LETTE",
    "R AoP2oDoLoUUUoRoLDoA2oQoBoMoOoD2oToSHq2oSoC-18oUoNNoXoNoTT2oPoSSoIoEoUUUUoKp2oNDoUUoGp2oSTq2oNGoIIoC-",
    "39oTToUUU2oRRoMBq2q3q4oLD2oE2oUUU3"]),
  (0x102E0, ["aCOPTIC EPACT THOUSANDS MARKnDIGIT ONEtTWOuHREEtFOURuIVEtSIXuEVENtEIGHTtNINEnNUMBER TENvWENTYv",
    "HIRTYuFORTYvIFTYuSIXTYvEVENTYuEIGHTYuNINETYuONE HUNDREDuTWO HUNDREDvHREE HUNDREDuFOUR HUNDREDvIVE HUND",
    "REDuSIX HUNDREDvEVEN HUNDREDuEIGHT HUNDREDuNINE HUNDRED????aOLD ITALIC LETTER AsBEsKEsDEsEsVEsZEsHEsTH",
    "EsIsKAsELtMtNtSHsOsPEsSHEsKUsERtSsTEsUsEKSsPHEsKHEsEFtRSsCHEsIIsUUsESSlNUMERAL ONEtFIVEtTENtFIFTY"]),
  (0x1032D, ["aOLD ITALIC LETTER YEsNORTHERN TSEsSOUTHERN TSEaGOTHIC LETTER AHSAoBAIRKANoGIBAoDAGSoAIHVUSoQA",
    "IRTHRAoIUJAoHAGLoTHIUTHoEISoKUSMAoLAGUSoMANNAoNAUTHSoJERoURUSoPAIRTHRAoNINETYoRAIDAoSAUILoTEIWSoWINJAo",
    "FAIHUoIGGWSoHWAIRoOTHALoNINE HUNDRED?????aOLD PERMIC LETTER ANsBURsGAIsDOIsEsZHOIsDZHOIsZATAsDZITAsIsK",
    "OKEsLEIsMENOEsNENOEsVOOIsPEEIsREIsSIIsTAIsUsCHERYsSHOOIuCHOOIsYRYtERUsOtOsEFsHAsTSIUsVERsYERvItATsIEsY",
    "UtAsIAaCOMBINING OLD PERMIC LETTER ANzdDOIzdZATAzdNENOEzdSII?????aUGARITIC LETTER ALPAqBETAqGAMLAqKHAq",
    "DELTAqHOqWOqZETAqHOTAqTETqYODqKAFqSHINqLAMDAqMEMqDHALqNUNqZUqSAMKAqAINqPUqSADEqQOPAqRASHAqTHANNAqGHAIN",
    "qTOqIqUqSSU?jWORD DIVIDERaOLD PERSIAN SIGN ArIrUrKAsUrGAsUrXArCArJAsIrTAsUrDAsIsUrTHArPArBArFArNAsUrMA",
    "sIsUrYArVAsIrRAsUrLArSArZArSHAsSArHA????rAURAMAZDAAzc-2zcHArXSHAAYATHIYArDAHYAAUSHzb-2rBAGAsUUMISHmWOR",
    "D DIVIDERmNUMBER ONEtTWOuENuWENTYtHUNDRED"]),
  (0x10400, ["aDESERET CAPITAL LETTER LONG IzdEzdAzeHzdOzeOxSHORT IzeEzeAzfHzeOzfOxAYxOWxWUxYEExHxPEExBEExTE",
    "ExDEExCHEExJEExKAYxGAYxEFxVEExETHxTHEExESxZEExESHxZHEExERyLyMyNzaGxOIxEWiSMALL LETTER LONG IzbEzbAzcHz",
    "bOzcOvSHORT IzcEzcAzdHzcOzdOvAYvOWvWUvYEEvHvPEEvBEEvTEEvDEEvCHEEvJEEvKAYvGAYvEFvVEEvETHvTHEEvESvZEEvES",
    "HvZHEEvERwLwMwNxGvOIvEWaSHAVIAN LETTER PEEPpTOTpKICKpFEEpTHIGHpSOqUREpCHURCHpYEApHUNGpBIBpDEADpGAGpVOW",
    "pTHEYpZOOpMEASUREpJUDGEpWOEpHA-HApLOLLpMIMEpIFpEGGpASHqDOpONpWOOLpOUTpAHpROARpNUNpEATpAGEpICEpUPpOAKqO",
    "ZEqILpAWEqREpORpAIRpERRpARRAYpEARpIANpYEWaOSMANYA LETTER ALEFpBApTApJApXApKHApDEELpRApSAqHIINpDHApCAYN",
    "pGApFApQAAFpKAAFpLAANpMIINpNUUNpWAWpHApYApApEpIpOpUpAApEEpOO??iDIGIT ZEROoONEoTWOpHREEoFOURpIVEoSIXpEV",
    "ENoEIGHToNINE??????cAGE CAPITAL LETTER AwIxNwHvBRAvCHAvEHCHAvEwINvHAwYAvIvKAvEHKAvKYAvLAvMAvNAvOwINvPA",
    "vEHPAvSAwHAvTAvEHTAvTSAvEHTSAvTSHAvDHAvUvWAvKHAvGHAvZAwHA????gSMALL LETTER AuIvNuHtBRAtCHAtEHCHAtEuINt",
    "HAuYAtItKAtEHKAtKYAtLAtMAtNAtOuINtPAtEHPAtSAuHAtTAtEHTAtTSAtEHTSAtTSHAtDHAtUtWAtKHAtGHAtZAuHA????aELBA",
    "SAN LETTER ApBEpCEqHEpDEpNDEpDHEpEIpEpFEpGEqJEpHEpIpJEpKEpLEqLEpMEpNEqAqJEpOpPEpQEpREqREpSEqHEpTEqHEpU",
    "pVEpXEpYpZEqHEpGHErAMMApKHE"]),
  (0x10530, ["aCAUCASIAN ALBANIAN LETTER ALTzbBETzbGIMzbDATzbEBzbZARLzbEYNzbZHILzbTASzbCHAzbYOWDzbZHAzbIRBzb",
    "SHAzbLANzbINYAzbXEYNzbDYANzbCARzbJHOXzbKARzbLYITzbHEYTzbQAYzbAORzbCHOYzdIzcYAYzbMAQzbQARzbNOWCzbDZYAYz",
    "bSHAKzbJAYNzbONzbTYAYzbFAMzbDZAYzbCHATzbPENzbGHEYSzbRATzbSEYKzbVEYZzbTIWRzbSHOYzbIWNzbCYAWzcAYNzbYAYDz",
    "bPIWRzbKIW"]),
  (0x1056F, ["aCAUCASIAN ALBANIAN CITATION MARKaVITHKUQI CAPITAL LETTER AyBBEzaEyCEzaHEyDEzaHEyEIyEyFEyGA?yH",
    "AzaHAyIzaJEyJEyKAyLAzaLAyMEyNEzaJEyOyPEyQAyRE?ySEzaHEyTEzaHEyUyVEyXE?yYyZE?jSMALL LETTER AwBBExEwCExHE",
    "wDExHEwEIwEwFEwGA?wHAxHAwIxJEwJEwKAwLAxLAwMEwNExJEwOwPEwQAwRE?wSExHEwTExHEwUwVEwXE?wYwZE"]),
  (0x10600, ["aLINEAR A SIGN AB001s2s3s4s5s6s7s8s9r10s1s3s6s7r20s1tFtMs2tFtMs3tMs4s6s7s8p028BpB029r30s1s4s7s",
    "8s9r40s1s4s5s6s7s8s9r50s1s3s4s5s6s7s8s9r60s1s5s6s7s9r70s3s4s6s7s8s9r80s1s2s5s6s7p100-102pB118r20p120Bp",
    "B122s3r31AtBp131CpB164r71r80s8r91p301r2r3r4r5r6r7r8r9AsBsCq10r1r2r3AsBsCr4r5r6r7r8r9q20r1r2r3r4r5r6r7r",
    "8r9q30r1r2r3r4r5r6r7r8r9q40r1r2r3r4r5r6r7r8r9q50r1r2r3r4r5r6r7r8r9q60r1r2r3r4r5r6r7r8r9q70r1p400-VASr1",
    "-VASr2-VASr3-VASr4-VASr5-VASr6-VASr7-VASr8-VASr9-VASq10-VASr1-VASr2-VASr3-VASr4-VASr5-VASr6-VASr7-VASr",
    "8-VASp501r2r3r4r5r6r8r9q10r1r2r3r5r6q20r1r3r4r5r6r7r8r9q30r1r2r4r5r6r7r8r9q40r1r2r5r7r8r9q50r1r2r3r4r5",
    "r6r7r9q63r4r5r6r8r9q70r1r2r3r4r5r6r7r8r9q80r1r2r3r4r5r6r7r8r9q91r2r4r5r6r8p600r1r2r3r4r6r8r9q10r1r2r3r",
    "4r5r6r7r8r9q20r1r2r3r4r6r7r8r9q34r7r8q40r2r3r4r5r6r8r9q51r2r3r4r5r6r7r8r9q60r1r2r3r4"]),
  (0x10740, ["aLINEAR A SIGN A701 Ar2 Br3 Dr4 Er5 Fr6 Hr7 Jr8 Kr9 Ls-2 L2t3 L3t4 L4t6 L6q10 Wr1 Xr2 Yr3 OMEG",
    "Ar4 ABBr5 BBr7 DDq26 EYYYq32 JE"]),
  (0x10760, ["aLINEAR A SIGN A800r1r2r3r4r5r6r7"]),
  (0x10780, ["aMODIFIER LETTER SMALL CAPITAL AArUPERSCRIPT TRIANGULAR COLONzdHALF TRIANGULAR COLONrMALL AEwC",
    "APITAL BwB WITH HOOK?wDZ DIGRAPHzh WITH RETROFLEX HOOKznCURLxEZH DIGRAPHx WITH TAILzeHOOKzi AND TAILwR",
    "EVERSED EwCLOSED REVERSED OPEN EwFENG DIGRAPHwRAMS HORNwCAPITAL GwG WITH HOOKwCAPITAL G WITH HOOKwH WI",
    "TH STROKEwCAPITAL HwHENG WITH HOOKwDOTLESS J WITH STROKE AND HOOKwLS DIGRAPHxZ DIGRAPHx WITH BELTwCAPI",
    "TAL L WITH BELTwL WITH RETROFLEX HOOK AND BELTxEZHzb WITH RETROFLEX HOOKwTURNED Yzf WITH BELTwO WITH S",
    "TROKEwCAPITAL OExLOSED OMEGAwQwTURNED R WITH LONG LEGzt AND RETROFLEX HOOKwR WITH TAILzeFISHHOOKwCAPIT",
    "AL RwTC DIGRAPH WITH CURLxS DIGRAPHzh WITH RETROFLEX HOOKxESH DIGRAPHx WITH RETROFLEX HOOKwV WITH RIGH",
    "T HOOK?wCAPITAL YqGLOTTAL STOP WITH STROKEqREVERSED GLOTTAL STOP WITH STROKEqBILABIAL CLICKqDENTAL CLI",
    "CKqLATERAL CLICKqALVEOLAR CLICKqRETROFLEX CLICK WITH RETROFLEX HOOKqSMALL S WITH CURL"]),
  (0x10800, ["aCYPRIOT SYLLABLE ArErIrOrUrJA??sO?rKAsEsIsOsUrLAsEsIsOsUrMAsEsIsOsUrNAsEsIsOsUrPAsEsIsOsUrRAs",
    "EsIsOsUrSAsEsIsOsUrTAsEsIsOsUrWAsEsIsO?rXAsE???rZA??sOaIMPERIAL ARAMAIC LETTER ALEPHyBETHyGIMELyDALETH",
    "yHEyWAWyZAYINyHETHyTETHyYODHyKAPHyLAMEDHyMEMyNUNySAMEKHyAYINyPEySADHEyQOPHyRESHySHINyTAW?rSECTION SIGN",
    "rNUMBER ONEyTWOzaHREEzaENzaWENTYyONE HUNDREDzdTHOUSANDyTEN THOUSANDaPALMYRENE LETTER ALEPHrBETHrGIMELr",
    "DALETHrHErWAWrZAYINrHETHrTETHrYODHrKAPHrLAMEDHrMEMrFINAL NUNrNUNrSAMEKHrAYINrPErSADHErQOPHrRESHrSHINrT",
    "AWmFT-POINTING FLEURONkRIGHT-POINTING FLEURONkNUMBER ONErTWOsHREErFOURsIVErTENsWENTYaNABATAEAN LETTER ",
    "FINAL ALEPHrALEPHrFINAL BETHrBETHrGIMELrDALETHrFINAL HErHErWAWrZAYINrHETHrTETHrFINAL YODHrYODHrFINAL K",
    "APHrKAPHrFINAL LAMEDHrLAMEDHrFINAL MEMrMEMrFINAL NUNrNUNrSAMEKHrAYINrPErSADHErQOPHrRESHrFINAL SHINrSHI",
    "NrTAW"]),
  (0x108A7, ["aNABATAEAN NUMBER ONErTWOsHREErFOURkCRUCIFORM NUMBER FOURkNUMBER FIVErTENsWENTYrONE HUNDRED"]),
  (0x108E0, ["aHATRAN LETTER ALEPHoBETHoGIMELoDALETH-RESHoHEoWAWoZAYNoHETHoTETHoYODHoKAPHoLAMEDHoMEMoNUNoSAM",
    "EKHoAYNoPEoSADHEoQOPH?oSHINoTAW?????hNUMBER ONEoFIVEoTENpWENTYoONE HUNDREDaPHOENICIAN LETTER ALFsBETsG",
    "AMLsDELTsHEsWAUsZAIsHETsTETsYODsKAFsLAMDsMEMsNUNsSEMKsAINsPEsSADEsQOFsROSHsSHINsTAUlNUMBER ONEsTENtWEN",
    "TYsONE HUNDREDsTWOtHREE???lWORD SEPARATORaLYDIAN LETTER AoBoGoDoEoVoIoYoKoLoMoNoOoRoSSoToUoFoQoSoTToAN",
    "oENoLYoNNoC?????hTRIANGULAR MARK"]),
  (0x10980, ["aMEROITIC HIEROGLYPHIC LETTER AzeEzeIzeOzeYAzeWAzeBAzg-2zePAzeMAzeNAzg-2zfEzg-2zeRAzg-2zeLAzeK",
    "HAzeHHAzeSAzg-2zfEzeKAzeQAzeTAzg-2zfEzg-2zfOzeDAwSYMBOL VIDJzi-2jCURSIVE LETTER AyEyIyOyYAyWAyBAyPAyMA",
    "yNAzaEyRAyLAyKHAyHHAySAyARCHAIC SAySEyKAyQAyTAzaEzaOyDA????rFRACTION ELEVEN TWELFTHSzbONE HALFrLOGOGRA",
    "M RMTzbIMNrNUMBER ONEyTWOzaHREEyFOURzaIVEySIXzaEVENyEIGHTyNINEyTENzaWENTYzaHIRTYyFORTYzaIFTYySIXTYzaEV",
    "ENTY??yONE HUNDREDyTWO HUNDREDzaHREE HUNDREDyFOUR HUNDREDzaIVE HUNDREDySIX HUNDREDzaEVEN HUNDREDyEIGHT",
    " HUNDREDyNINE HUNDREDyONE THOUSANDyTWO THOUSANDzaHREE THOUSANDyFOUR THOUSANDzaIVE THOUSANDySIX THOUSAN",
    "DzaEVEN THOUSANDyEIGHT THOUSANDyNINE THOUSANDyTEN THOUSANDzaWENTY THOUSANDzaHIRTY THOUSANDyFORTY THOUS",
    "ANDzaIFTY THOUSANDySIXTY THOUSANDzaEVENTY THOUSANDyEIGHTY THOUSANDyNINETY THOUSANDyONE HUNDRED THOUSAN",
    "DyTWO HUNDRED THOUSANDzaHREE HUNDRED THOUSANDyFOUR HUNDRED THOUSANDzaIVE HUNDRED THOUSANDySIX HUNDRED ",
    "THOUSANDzaEVEN HUNDRED THOUSANDyEIGHT HUNDRED THOUSANDyNINE HUNDRED THOUSANDrFRACTION ONE TWELFTHzbTWO",
    " TWELFTHSzcHREE TWELFTHSzbFOUR TWELFTHSzcIVE TWELFTHSzbSIX TWELFTHSzcEVEN TWELFTHSzbEIGHT TWELFTHSzbNI",
    "NE TWELFTHSzbTEN TWELFTHSaKHAROSHTHI LETTER AlVOWEL SIGN IwUwVOCALIC R?wEwO?????rLENGTH MARKlSIGN DOUB",
    "LE RING BELOWqANUSVARAqVISARGAlLETTER KAtHAsGAtHA?sCAtHAsJA?sNYAsTTAuHAsDDAuHAsNNAsTAtHAsDAtHAsNAsPAtH",
    "AsBAtHAsMAsYAsRAsLAsVAsSHAtSAtAsZAsHAsKKAsTTTHAvAsVHA??lSIGN BAR ABOVEqCAUDAqDOT BELOW????lVIRAMAlDIGI",
    "T ONErTWOsHREErFOURlNUMBER TENtWENTYsONE HUNDREDwTHOUSANDlFRACTION ONE HALF???????lPUNCTUATION DOTxSMA",
    "LL CIRCLExCIRCLEyRESCENT BARxMANGALAMxLOTUSxDANDAyOUBLE DANDAxLINES???????aOLD SOUTH ARABIAN LETTER HE",
    "zaLAMEDHzaHETHzaMEMzaQOPHzaWAWzaSHINzaRESHzaBETHzaTAWzaSATzaKAPHzaNUNzaKHETHzaSADHEzcMEKHzaFEzaALEFzbY",
    "NzaDHADHEzaGIMELzaDALETHzaGHAYNzaTETHzaZAYNzaDHALETHzaYODHzaTHAWzcETHsNUMBER ONEzaFIFTYvERIC INDICATOR",
    "eNORTH ARABIAN LETTER HEHzaLAMzaHAHzaMEEMzaQAFzaWAWzaES-2zaREHzaBEHzaTEHzaES-1zaKAFzaNOONzaKHAHzaSADza",
    "ES-3zaFEHzaALEFzbINzaDADzaGEEMzaDALzaGHAINzaTAHzaZAINzaTHALzaYEHzaTHEHzaZAHsNUMBER ONEzaTENzbWENTY"]),
  (0x10AC0, ["aMANICHAEAN LETTER ALEPHsBETHtHETHsGIMELtHIMELsDALETHsHEsWAWlSIGN UDlLETTER ZAYINtHAYINsJAYINt",
    "HAYINsHETHsTETHsYODHsKAPHsXAPHsKHAPHsLAMEDHsDHAMEDHsTHAMEDHsMEMsNUNsSAMEKHsAYINtAYINsPEsFEsSADHEsQOPHs",
    "XOPHsQHOPHsRESHsSHINtSHINsTAWlABBREVIATION MARK ABOVEzeBELOW????lNUMBER ONEsFIVEsTENtWENTYsONE HUNDRED",
    "lPUNCTUATION STARxFLEURONxDOUBLE DOT WITHIN DOTzaT WITHIN DOTzaTxTWO DOTSxLINE FILLER"]),
  (0x10B00, ["aAVESTAN LETTER AqAqOqAOqNqANqErEpEqEpOqOpIqIpUqUpKEpXEqYEqVEpGEqGEqHEpCEpJEpTEqHEpDEqHEpTTEpP",
    "EpFEpBEqHEpNGErYErVEqEqYEqNEpMEpHMEpYYEqEpVEpREpLEpSEpZEpSHEpZHEpSHYEqSHEpHE???iABBREVIATION MARKaTINY",
    " TWO DOTS OVER ONE DOT PUNCTUATIONaSMALL TWO DOTS OVER ONE DOT PUNCTUATIONaLARGE TWO DOTS OVER ONE DOT",
    " PUNCTUATIONgONE DOT OVER TWO DOTS PUNCTUATIONgTWO RINGS OVER ONE RING PUNCTUATIONgONE RING OVER TWO R",
    "INGS PUNCTUATIONaINSCRIPTIONAL PARTHIAN LETTER ALEPHzfBETHzfGIMELzfDALETHzfHEzfWAWzfZAYINzfHETHzfTETHz",
    "fYODHzfKAPHzfLAMEDHzfMEMzfNUNzfSAMEKHzfAYINzfPEzfSADHEzfQOPHzfRESHzfSHINzfTAW??xNUMBER ONEzfTWOzgHREEz",
    "fFOURzfTENzgWENTYzfONE HUNDREDzjTHOUSANDqHLAVI LETTER ALEPHzeBETHzeGIMELzeDALETHzeHEzeWAW-AYIN-RESHzeZ",
    "AYINzeHETHzeTETHzeYODHzeKAPHzeLAMEDHzeMEM-QOPHzeNUNzeSAMEKHzePEzeSADHEzfHINzeTAW?????wNUMBER ONEzeTWOz",
    "fHREEzeFOURzeTENzfWENTYzeONE HUNDREDziTHOUSANDaPSALTER PAHLAVI LETTER ALEPHxBETHxGIMELxDALETHxHExWAW-A",
    "YIN-RESHxZAYINxHETHxYODHxKAPHxLAMEDHxMEM-QOPHxNUNxSAMEKHxPExSADHEyHINxTAW???????qSECTION MARKqTURNED S",
    "ECTION MARKqFOUR DOTS WITH CROSSzgDOT"]),
  (0x10BA9, ["aPSALTER PAHLAVI NUMBER ONExTWOyHREExFOURxTENyWENTYxONE HUNDRED"]),
  (0x10C00, ["aOLD TURKIC LETTER ORKHON AsYENISEI AzcEsORKHON IsYENISEI IzbEsORKHON OzbEsYENISEI OEsORKHON A",
    "BsYENISEI ABsORKHON AEBsYENISEI AEBsORKHON AGsYENISEI AGsORKHON AEGsYENISEI AEGsORKHON ADsYENISEI ADsO",
    "RKHON AEDzaEZsYENISEI EZsORKHON AYsYENISEI AYsORKHON AEYsYENISEI AEYsORKHON AEKsYENISEI AEKsORKHON OEK",
    "sYENISEI OEKsORKHON ALsYENISEI ALsORKHON AELzaELTzbMzaANzbENsYENISEI AENsORKHON ENTsYENISEI ENTsORKHON",
    " ENCsYENISEI ENCsORKHON ENYsYENISEI ENYzbANGsORKHON ENGsYENISEI AENGsORKHON EPzaOPzaICzaECsYENISEI ECs",
    "ORKHON AQsYENISEI AQsORKHON IQsYENISEI IQsORKHON OQsYENISEI OQsORKHON ARsYENISEI ARsORKHON AERzbSzbESz",
    "bSHsYENISEI ASHsORKHON ESHsYENISEI ESHsORKHON ATsYENISEI ATsORKHON AETsYENISEI AETsORKHON OTzaBASH"]),
  (0x10C80, ["aOLD HUNGARIAN CAPITAL LETTER AzfAzeEBzeAMBzeECzfNCzfCSzfDzeANDzeEzeCLOSE EzeEEzfFzfGzgYzfHzeI",
    "zfIzeEJzfKzeAKzeUNKzeELzgYzfMzfNzgYzeOzfOzeNIKOLSBURG OEzeRUDIMENTA OEzeOEEzeEPzfMPzfRzeSHORT ERzeESzg",
    "ZzfTzfNTzfTYzfCHzeUzfUzeNIKOLSBURG UEzeRUDIMENTA UEzeEVzfZzgSzfNT-SHAPED SIGNzeUS"]),
  (0x10CC0, ["aOLD HUNGARIAN SMALL LETTER AzdAzcEBzcAMBzcECzdNCzdCSzdDzcANDzcEzcCLOSE EzcEEzdFzdGzeYzdHzcIzd",
    "IzcEJzdKzcAKzcUNKzcELzeYzdMzdNzeYzcOzdOzcNIKOLSBURG OEzcRUDIMENTA OEzcOEEzcEPzdMPzdRzcSHORT ERzcESzeZz",
    "dTzdNTzdTYzdCHzcUzdUzcNIKOLSBURG UEzcRUDIMENTA UEzcEVzdZzeSzdNT-SHAPED SIGNzcUS???????oNUMBER ONEvFIVE",
    "vTENvFIFTYvONE HUNDREDzaTHOUSANDaHANIFI ROHINGYA LETTER AxBAxPAxTAyTAxJAxCAxHAxKHAxFAxDAyDAxRAyRAxZAxS",
    "AyHAxKAxGAxLAxMAxNAxWAxKINNA WAxYAxKINNA YAxNGAyYAxVAqVOWEL AwIwUwEwOqMARK SAKINvNA KHONNAqSIGN HARBAH",
    "AYvTAHALAxNAxSSI"]),
  (0x10D30, ["aHANIFI ROHINGYA DIGIT ZEROwONEwTWOxHREEwFOURxIVEwSIXxEVENwEIGHTwNINE"]),
  (0x10E60, ["aRUMI DIGIT ONElTWOmHREElFOURmIVElSIXmEVENlEIGHTlNINEfNUMBER TENnWENTYnHIRTYmFORTYnIFTYmSIXTYn",
    "EVENTYmEIGHTYmNINETYmONE HUNDREDmTWO HUNDREDnHREE HUNDREDmFOUR HUNDREDnIVE HUNDREDmSIX HUNDREDnEVEN HU",
    "NDREDmEIGHT HUNDREDmNINE HUNDREDfFRACTION ONE HALFsQUARTERsTHIRDoTWO THIRDS?aYEZIDI LETTER ELIFoBEoPEp",
    "HEoTHEoSEoCIMpHIMqHIMoHHAoXAoDALoZALoRApHAoZAoJAoSINpHINpADoDADoTAoZEoEYNoXHEYNoFAoVAq ALTERNATE FORMo",
    "QAFoKAFpHAFoGAFoLAMoMIMoNUNoUMoWAWoOWoEWoHAYoYOToET?hCOMBINING HAMZA MARKrMADDA MARKhHYPHENATION MARK?",
    "?hLETTER LAM WITH DOT ABOVEoYOT WITH CIRCUMFLEX ABOVE"]),
  (0x10F00, ["aOLD SOGDIAN LETTER ALEPHtFINAL ALEPHtBETHtFINAL BETHtGIMELtHEtFINAL HEtWAWtZAYINtHETHtYODHtKA",
    "PHtLAMEDHtMEMtNUNtFINAL NUNzd WITH VERTICAL TAILtSAMEKHtAYINuLTERNATE AYINtPEtSADHEtFINAL SADHEzf WITH",
    " VERTICAL TAILtRESH-AYIN-DALETHtSHINtTAWtFINAL TAWzd WITH VERTICAL TAILmNUMBER ONEtTWOuHREEtFOURuIVEtT",
    "ENuWENTYuHIRTYtONE HUNDREDmFRACTION ONE HALFmLIGATURE AYIN-DALETH"]),
  (0x10F30, ["aSOGDIAN LETTER ALEPHpBETHpGIMELpHEpWAWpZAYINpHETHpYODHpKAPHpLAMEDHpMEMpNUNpSAMEKHpAYINpPEpSAD",
    "HEpRESH-AYINpSHINpTAWpFETHpLESHiINDEPENDENT SHINiCOMBINING DOT BELOWsTWO DOTS BELOWsDOT ABOVEsTWO DOTS",
    " ABOVEsCURVE ABOVEyBELOWsHOOK ABOVExBELOWsLONG HOOK BELOWsRESH BELOWsSTROKE BELOWiNUMBER ONEpTENqWENTY",
    "pONE HUNDREDiPUNCTUATION TWO VERTICAL BARSzm WITH DOTSuCIRCLE WITH DOTuTWO CIRCLES WITH DOTSuHALF CIRC",
    "LE WITH DOT"]),
  (0x10F70, ["aOLD UYGHUR LETTER ALEPHsBETHsGIMEL-HETHsWAWsZAYINsFINAL HETHsYODHsKAPHsLAMEDHsMEMsNUNsSAMEKHs",
    "PEsSADHEsRESHsSHINsTAWsLESHlCOMBINING DOT ABOVEzaBELOWvTWO DOTS ABOVEzfBELOWlPUNCTUATION BARxTWO BARSz",
    "cDOTSxFOUR DOTS"]),
  (0x10FB0, ["aCHORASMIAN LETTER ALEPHsSMALL ALEPHsBETHsGIMELsDALETHsHEsWAWsCURLED WAWsZAYINsHETHsYODHsKAPHs",
    "LAMEDHsMEMsNUNsSAMEKHsAYINsPEsRESHsSHINsTAWlNUMBER ONEsTWOtHREEsFOURsTENtWENTYsONE HUNDRED"]),
  (0x10FE0, ["aELYMAIC LETTER ALEPHpBETHpGIMELpDALETHpHEpWAWpZAYINpHETHpTETHpYODHpKAPHpLAMEDHpMEMpNUNpSAMEKH",
    "pAYINpPEpSADHEpQOPHpRESHpSHINpTAWjIGATURE ZAYIN-YODH"]),
  (0x11000, ["aBRAHMI SIGN CANDRABINDUmANUSVARAmVISARGAmJIHVAMULIYAmUPADHMANIYAhLETTER ApAoIpIoUpUoVOCALIC R",
    "xRwLxLoEoAIoOoAUoKApHAoGApHAoNGAoCApHAoJApHAoNYAoTTAqHAoDDAqHAoNNAoTApHAoDApHAoNAoPApHAoBApHAoMAoYAoRA",
    "oLAoVAoSHApSApAoHAoLLAoOLD TAMIL LLLAyRRAyNNNAhVOWEL SIGN AAsBHATTIPROLU AAsItIsUtUsVOCALIC RzcRzbLzcL",
    "sEsAIsOsAUiIRAMAhDANDAiOUBLE DANDAhPUNCTUATION DOTvUBLE DOTtLINEtCRESCENT BARtLOTUS????hNUMBER ONEoTWO",
    "pHREEoFOURpIVEoSIXpEVENoEIGHToNINEoTENpWENTYpHIRTYoFORTYpIFTYoSIXTYpEVENTYoEIGHTYoNINETYoONE HUNDREDsT",
    "HOUSANDhDIGIT ZEROnONEnTWOoHREEnFOURoIVEnSIXoEVENnEIGHTnNINEhSIGN OLD TAMIL VIRAMAhLETTER OLD TAMIL SH",
    "ORT EzfOhVOWEL SIGN OLD TAMIL SHORT EzjOhLETTER OLD TAMIL LLA"]),
  (0x1107F, ["aBRAHMI NUMBER JOINERaKAITHI SIGN CANDRABINDUmANUSVARAmVISARGAhLETTER ApAoIpIoUpUoEoAIoOoAUoKA",
    "pHAoGApHAoNGAoCApHAoJApHAoNYAoTTAqHAoDDAqDHAqHAoRHAoNNAoTApHAoDApHAoNAoPApHAoBApHAoMAoYAoRAoLAoVAoSHAp",
    "SApAoHAhVOWEL SIGN AAsItIsUtUsEsAIsOsAUhSIGN VIRAMAmNUKTAhABBREVIATION SIGNhENUMERATION SIGNhNUMBER SI",
    "GNhSECTION MARKhDOUBLE SECTION MARKiANDAiOUBLE DANDAhVOWEL SIGN VOCALIC R"]),
  (0x110CD, ["aKAITHI NUMBER SIGN ABOVE??aSORA SOMPENG LETTER SAHuTAHuBAHuCAHuDAHuGAHuMAHuNGAHuLAHuNAHuVAHuP",
    "AHuYAHuRAHuHAHuKAHuJAHuNYAHuAHuEEHuIHuUHuOHuEHuMAE???????nDIGIT ZEROtONEtTWOuHREEtFOURuIVEtSIXuEVENtEI",
    "GHTtNINE??????aCHAKMA SIGN CANDRABINDUmANUSVARAmVISARGAhLETTER AAoIoUoEoKAApHAAoGAApHAAoNGAAoCAApHAAoJ",
    "AApHAAoNYAAoTTAAqHAAoDDAAqHAAoNNAAoTAApHAAoDAApHAAoNAAoPAApHAAoBAApHAAoMAAoYYAApAAoRAAoLAAoWAAoSAAoHAA",
    "hVOWEL SIGN AsItIsUtUsEsAIsOsAUsOIhO MARKhAU MARKhVIRAMAhMAAYYAA?hDIGIT ZEROnONEnTWOoHREEnFOURoIVEnSIX",
    "oEVENnEIGHTnNINEhSECTION MARKhDANDAiOUBLE DANDAhQUESTION MARKhLETTER LHAAhVOWEL SIGN AAsEIhLETTER VAA"]),
  (0x11150, ["aMAHAJANI LETTER AqIqUqEqOqKArHAqGArHAqCArHAqJArHAqNYAqTTAsHAqDDAsHAqNNAqTArHAqDArHAqNAqPArHAq",
    "BArHAqMAqRAqLAqVAqSAqHAqRRAjSIGN NUKTAjABBREVIATION SIGNjSECTION MARKjLIGATURE SHRI"]),
  (0x11180, ["aSHARADA SIGN CANDRABINDUnANUSVARAnVISARGAiLETTER AqApIqIpUqUpVOCALIC RyRxLyLpEpAIpOpAUpKAqHAp",
    "GAqHApNGApCAqHApJAqHApNYApTTArHApDDArHApNNApTAqHApDAqHApNApPAqHApBAqHApMApYApRApLAqLApVApSHAqSAqApHAiV",
    "OWEL SIGN AAtIuItUuUtVOCALIC RzdRzcLzdLtEtAItOtAUiSIGN VIRAMAnAVAGRAHAnJIHVAMULIYAnUPADHMANIYAiOMiDAND",
    "AjOUBLE DANDAiABBREVIATION SIGNiSEPARATORjANDHI MARKjIGN NUKTAiVOWEL MODIFIER MARKiEXTRA SHORT VOWEL M",
    "ARKiSUTRA MARKiVOWEL SIGN PRISHTHAMATRA EiSIGN INVERTED CANDRABINDUiDIGIT ZEROoONEoTWOpHREEoFOURpIVEoS",
    "IXpEVENoEIGHToNINEiEKAMiSIGN SIDDHAMiHEADSTROKEiCONTINUATION SIGNiSECTION MARK-1v2?bINHALA ARCHAIC DIG",
    "IT ONEwTWOxHREEwFOURxIVEwSIXxEVENwEIGHTwNINEqNUMBER TENyWENTYyHIRTYxFORTYyIFTYxSIXTYyEVENTYxEIGHTYxNIN",
    "ETYxONE HUNDREDzcTHOUSAND"]),
  (0x11200, ["aKHOJKI LETTER ApAoIoUoEoAIoOoAUoKApHAoGApGApHAoNGAoCApHAoJApJA?oNYAoTTAqHAoDDAqHAoNNAoTApHAoD",
    "ApDDApHAoNAoPApHAoBApBApHAoMAoYAoRAoLAoVAoSAoHAoLLAhVOWEL SIGN AAsItIsUsEsAIsOsAUhSIGN ANUSVARAmVIRAMA",
    "mNUKTAmSHADDAhDANDAiOUBLE DANDAhWORD SEPARATORhSECTION MARKhDOUBLE SECTION MARKhABBREVIATION SIGNhSIGN",
    " SUKUN"]),
  (0x11280, ["aMULTANI LETTER ApIpUpEpKAqHApGA?qHA?pCAqHApJAqJA?pNYApTTArHApDDArDArHApNNApTAqHApDAqHApNApPAq",
    "HApBA?qHApMApYApRApLApVApSApHApRRAqHAiSECTION MARK??????aKHUDAWADI LETTER AsArIsIrUsUrErAIrOrAUrKAsHAr",
    "GAsGAsHArNGArCAsHArJAsJAsHArNYArTTAtHArDDAtDArRRArDDHArNNArTAsHArDAsHArNArPAsHArBAsBAsHArMArYArRArLArV",
    "ArSHAsArHAkSIGN ANUSVARAkVOWEL SIGN AAvIwIvUwUvEvAIvOvAUkSIGN NUKTApVIRAMA?????kDIGIT ZEROqONEqTWOrHRE",
    "EqFOURrIVEqSIXrEVENqEIGHTqNINE??????aGRANTHA SIGN COMBINING ANUSVARA ABOVEoANDRABINDUnANUSVARAnVISARGA",
    "?iLETTER AqApIqIpUqUpVOCALIC RxL??pEEpAI??pOOpAUpKAqHApGAqHApNGApCAqHApJAqHApNYApTTArHApDDArHApNNApTAq",
    "HApDAqHApNA?pPAqHApBAqHApMApYApRA?pLAqLA?pVApSHAqSAqApHA?aCOMBINING BINDU BELOWaGRANTHA SIGN NUKTAnAVA",
    "GRAHAiVOWEL SIGN AAtIuItUuUtVOCALIC RzdR??tEEtAI??tOOtAUiSIGN VIRAMA??iOM??????iAU LENGTH MARK?????iSI",
    "GN PLUTAiLETTER VEDIC ANUSVARAvDOUBLE ANUSVARAqOCALIC RRxLLiVOWEL SIGN VOCALIC LzdL??aCOMBINING GRANTH",
    "A DIGIT ZEROyONEyTWOzaHREEyFOURzaIVEySIX???sLETTER AzaKAzaNAzaVIzaPA"]),
  (0x11400, ["aNEWA LETTER AnAmInImUnUmVOCALIC RvRuLvLmEmAImOmAUmKAnHAmGAnHAmNGAoHAmCAnHAmJAnHAmNYAoHAmTTAoH",
    "AmDDAoHAmNNAmTAnHAmDAnHAmNAnHAmPAnHAmBAnHAmMAnHAmYAmRAnHAmLAnHAmWAmSHAnSAnAmHAfVOWEL SIGN AAqIrIqUrUqV",
    "OCALIC RzaRyLzaLqEqAIqOqAUfSIGN VIRAMAkCANDRABINDUkANUSVARAkVISARGAkNUKTAkAVAGRAHAkFINAL ANUSVARAfOMfS",
    "IDDHIfDANDAgOUBLE DANDAfCOMMAfGAP FILLERfABBREVIATION SIGNfDIGIT ZEROlONElTWOmHREElFOURmIVElSIXmEVENlE",
    "IGHTlNINEgOUBLE COMMAfPLACEHOLDER MARK?fINSERTION SIGNfSANDHI MARKfLETTER VEDIC ANUSVARAfSIGN JIHVAMUL",
    "IYAkUPADHMANIYA"]),
  (0x11480, ["aTIRHUTA ANJIiLETTER AqApIqIpUqUpVOCALIC RyRxLyLpEpAIpOpAUpKAqHApGAqHApNGApCAqHApJAqHApNYApTTA",
    "rHApDDArHApNNApTAqHApDAqHApNApPAqHApBAqHApMApYApRApLApVApSHAqSAqApHAiVOWEL SIGN AAtIuItUuUtVOCALIC Rzd",
    "RzcLzdLtEtSHORT EtAItOtSHORT OtAUiSIGN CANDRABINDUnANUSVARAnVISARGApRAMAnNUKTAnAVAGRAHAiGVANGiABBREVIA",
    "TION SIGNiOM"]),
  (0x114D0, ["aTIRHUTA DIGIT ZEROoONEoTWOpHREEoFOURpIVEoSIXpEVENoEIGHToNINE"]),
  (0x11580, ["aSIDDHAM LETTER AqApIqIpUqUpVOCALIC RyRxLyLpEpAIpOpAUpKAqHApGAqHApNGApCAqHApJAqHApNYApTTArHApD",
    "DArHApNNApTAqHApDAqHApNApPAqHApBAqHApMApYApRApLApVApSHAqSAqApHAiVOWEL SIGN AAtIuItUuUtVOCALIC RzdR??tE",
    "tAItOtAUiSIGN CANDRABINDUnANUSVARAnVISARGApRAMAnNUKTAnSIDDHAMiDANDAjOUBLE DANDAiSEPARATOR DOTsBARiREPE",
    "TITION MARK-1y2y3iEND OF TEXT MARKiSECTION MARK WITH TRIDENT AND U-SHAPED ORNAMENTSznDOTTED CRESCENTSz",
    "bRAYS AND DOTTED CRESCENTSzrDOUBLE CRESCENTSzrTRIPLE CRESCENTSvDOUBLE RINGzh WITH RAYSvWITH DOUBLE CRE",
    "SCENTSzbTRIPLE CRESCENTSzbQUADRUPLE CRESCENTSzbSEPTUPLE CRESCENTSzbCIRCLES AND RAYSznTWO ENCLOSURESznF",
    "OUR ENCLOSURESiLETTER THREE-CIRCLE ALTERNATE IqWO-CIRCLE ALTERNATE IzmIpALTERNATE UiVOWEL SIGN ALTERNA",
    "TE UzfU"]),
  (0x11600, ["aMODI LETTER AnAmInImUnUmVOCALIC RvRuLvLmEmAImOmAUmKAnHAmGAnHAmNGAmCAnHAmJAnHAmNYAmTTAoHAmDDAo",
    "HAmNNAmTAnHAmDAnHAmNAmPAnHAmBAnHAmMAmYAmRAmLAmVAmSHAnSAnAmHAmLLAfVOWEL SIGN AAqIrIqUrUqVOCALIC RzaRyLz",
    "aLqEqAIqOqAUfSIGN ANUSVARAkVISARGAmRAMAkARDHACANDRAfDANDAgOUBLE DANDAfABBREVIATION SIGNfSIGN HUVA"]),
  (0x11650, ["aMODI DIGIT ZEROlONElTWOmHREElFOURmIVElSIXmEVENlEIGHTlNINE??????cNGOLIAN BIRGA WITH ORNAMENTkR",
    "OTATED BIRGAkDOUBLE BIRGA WITH ORNAMENTkTRIPLE BIRGA WITH ORNAMENTkBIRGA WITH DOUBLE ORNAMENTkROTATED ",
    "BIRGA WITH ORNAMENTzeDOUBLE ORNAMENTkINVERTED BIRGAy WITH DOUBLE ORNAMENTkSWIRL BIRGAv WITH ORNAMENTzc",
    "DOUBLE ORNAMENTkTURNED SWIRL BIRGA WITH DOUBLE ORNAMENT"]),
  (0x11680, ["aTAKRI LETTER AoAnIoInUoUnEnAInOnAUnKAoHAnGAoHAnNGAnCAoHAnJAoHAnNYAnTTApHAnDDApHAnNNAnTAoHAnDA",
    "oHAnNAnPAoHAnBAoHAnMAnYAnRAnLAnVAnSHAoAnHAnRRAgSIGN ANUSVARAlVISARGAgVOWEL SIGN AArIsIrUsUrErAIrOrAUgS",
    "IGN VIRAMAlNUKTAgLETTER ARCHAIC KHAgABBREVIATION SIGN??????gDIGIT ZEROmONEmTWOnHREEmFOURnIVEmSIXnEVENm",
    "EIGHTmNINE"]),
  (0x11700, ["aAHOM LETTER KAnHAmNGAnAmTAmALTERNATE TAmPAnHAmBAmMAmJAmCHAmTHAmRAmLAmSAmNYAmHAmAmDAnHAmGAmALT",
    "ERNATE GAmGHAmBHAmJHAmALTERNATE BA??fCONSONANT SIGN MEDIAL LAzcRAzcLIGATING RAfVOWEL SIGN ArAqIrIqUrUq",
    "EqAWqOqAIrMfSIGN KILLER????fDIGIT ZEROlONElTWOmHREElFOURmIVElSIXmEVENlEIGHTlNINEfNUMBER TENnWENTYfSIGN",
    " SMALL SECTIONlECTIONkRULAIgYMBOL VIfLETTER CAmTTAoHAmDDAoHAmNNAmLLA"]),
  (0x11800, ["aDOGRA LETTER AoAnIoInUoUnEnAInOnAUnKAoHAnGAoHAnNGAnCAoHAnJAoHAnNYAnTTApHAnDDApHAnNNAnTAoHAnDA",
    "oHAnNAnPAoHAnBAoHAnMAnYAnRAnLAnVAnSHAoSAoAnHAnRRAgVOWEL SIGN AArIsIrUsUrVOCALIC RzbRrErAIrOrAUgSIGN AN",
    "USVARAlVISARGAnRAMAlNUKTAgABBREVIATION SIGN"]),
  (0x118A0, ["aWARANG CITI CAPITAL LETTER NGAAzcAzcWIzcYUzdAzdOzcIIzcUUzcEzcOzcANGzcGAzcKOzcENYzcYUJzcUCzcEN",
    "NzcODDzcTTEzcNUNGzcDAzcATzdMzcBUzcPUzcHIYOzdOLOzeRRzdARzcSSUUzdIIzcVIYOmSMALL LETTER NGAAzaAzaWIzaYUzb",
    "AzbOzaIIzaUUzaEzaOzaANGzaGAzaKOzaENYzaYUJzaUCzaENNzaODDzaTTEzaNUNGzaDAzaATzbMzaBUzaPUzaHIYOzbOLOzcRRzb",
    "ARzaSSUUzbIIzaVIYOmDIGIT ZEROsONEsTWOtHREEsFOURtIVEsSIXtEVENsEIGHTsNINEmNUMBER TENuWENTYuHIRTYtFORTYuI",
    "FTYtSIXTYuEVENTYtEIGHTYtNINETY"]),
  (0x118FF, ["aWARANG CITI OMaDIVES AKURU LETTER AuAtIuItUuUtE??tO??tKAuHAtGAuHAtNGAtCAuHAtJA?tNYAtTTA?tDDAv",
    "HAtNNAtTAuHAtDAuHAtNAtPAuHAtBAuHAtMAtYAuYAtRAtLAtVAtSHAuSAuAtHAtLLAtZAmVOWEL SIGN AAxIyIxUyUxE?xAIxO??",
    "mSIGN ANUSVARArCANDRABINDUrHALANTAmVIRAMAmPREFIXED NASAL SIGNmMEDIAL YAmINITIAL RAmMEDIAL RAmSIGN NUKT",
    "AmDOUBLE DANDAmGAP FILLERmEND OF TEXT MARK"]),
  (0x11950, ["aDIVES AKURU DIGIT ZEROsONEsTWOtHREEsFOURtIVEsSIXtEVENsEIGHTsNINE"]),
  (0x119A0, ["aNANDINAGARI LETTER AuAtIuItUuUtVOCALIC RzdR??tEtAItOtAUtKAuHAtGAuHAtNGAtCAuHAtJAuHAtNYAtTTAvH",
    "AtDDAvHAtNNAtTAuHAtDAuHAtNAtPAuHAtBAuHAtMAtYAtRAtLAtVAtSHAuSAuAtHAtLLAtRRAmVOWEL SIGN AAxIyIxUyUxVOCAL",
    "IC RzhR??xExAIxOxAUmSIGN ANUSVARArVISARGAtRAMArAVAGRAHArSIDDHAMmHEADSTROKEmVOWEL SIGN PRISHTHAMATRA E"]),
  (0x11A00, ["aZANABAZAR SQUARE LETTER ArVOWEL SIGN IzdUEzdUzdEzdOEzdOzdAIzeUzdREVERSED IxLENGTH MARKrLETTER",
    " KAzaHAyGAzaHAyNGAyCAzaHAyJAyNYAyTTAzbHAyDDAzbHAyNNAyTAzaHAyDAzaHAyNAyPAzaHAyBAzaHAyMAyTSAzbHAyDZAzbHA",
    "yZHAzaAy-AyYAyRAyLAyVAySHAzaSAzaAyHAyKSSArFINAL CONSONANT MARKrSIGN VIRAMAwCANDRABINDUzi WITH ORNAMENT",
    "zd WITH ORNAMENTwANUSVARAwVISARGArCLUSTER-INITIAL LETTER RAzaFINAL LETTER YAznRAznLAznVArINITIAL HEAD ",
    "MARKrCLOSING HEAD MARKrMARK TSHEGwSHADwDOUBLE SHADwLONG TSHEGrINITIAL DOUBLE-LINED HEAD MARKrCLOSING D",
    "OUBLE-LINED HEAD MARKrSUBJOINER"]),
  (0x11A50, ["aSOYOMBO LETTER AiVOWEL SIGN ItUEtUtEtOuEtAIuUtVOCALIC RzcLoLENGTH MARKiLETTER KAqHApGAqHApNGA",
    "pCAqHApJAqHApNYApTTArHApDDArHApNNApTAqHApDAqHApNApPAqHApBAqHApMApTSArHApDZApZHAqAp-ApYApRApLApVApSHAqS",
    "AqApHApKSSAiSIGN JIHVAMULIYAnUPADHMANIYAiCLUSTER-INITIAL LETTER RAzgLAzgSHAzhAiFINAL CONSONANT SIGN Gz",
    "eKzeNGzeDzeNzeBzeMzeRzeLzeSHzeSze-AiSIGN ANUSVARAnVISARGAiGEMINATION MARKiSUBJOINERiMARK TSHEGnSHADnDO",
    "UBLE SHADnPLUTAiHEAD MARK WITH MOON AND SUN AND TRIPLE FLAMEzpFLAMEzjNiTERMINAL MARK-1w2"]),
  (0x11AB0, ["aCANADIAN SYLLABICS NATTILIK HIzfIzeOzfOzeAzfAzdSHRIzhIzgOzhOzgAzhAtSPEvIvOvAaPAU CIN HAU LETT",
    "ER PAtKAtLAtMAtDAtZAtVAtNGAtHAtGAtKHAtSAtBAtCAtTAuHAtNAtPHAtRAtFAtCHAtAtEtItOtUuAtIAtFINAL PzaKzaTzaMz",
    "aNzaLzaWzaNGzaYmRISING TONE LONGwEmSANDHI GLOTTAL STOPmRISING TONE LONG FINALyFINALmSANDHI GLOTTAL STO",
    "P FINALtTONE LONGwEx LONG FINALyFINALmMID-LEVEL TONEmGLOTTAL STOP VARIANTmMID-LEVEL TONE LONG FINALzcF",
    "INALmLOW-FALLING TONE LONGzcEmGLOTTAL STOPmLOW-FALLING TONE LONG FINALzeFINALmGLOTTAL STOP FINAL"]),
  (0x11C00, ["aBHAIKSUKI LETTER AsArIsIrUsUrVOCALIC RzbRzaL?rErAIrOrAUrKAsHArGAsHArNGArCAsHArJAsHArNYArTTAtH",
    "ArDDAtHArNNArTAsHArDAsHArNArPAsHArBAsHArMArYArRArLArVArSHAsSAsArHAkVOWEL SIGN AAvIwIvUwUvVOCALIC RzfRz",
    "eL?vEvAIvOvAUkSIGN CANDRABINDUpANUSVARApVISARGArRAMApAVAGRAHAkDANDAlOUBLE DANDAkWORD SEPARATORkGAP FIL",
    "LER-1v2"]),
  (0x11C50, ["aBHAIKSUKI DIGIT ZEROqONEqTWOrHREEqFOURrIVEqSIXrEVENqEIGHTqNINEkNUMBER ONErTWOsHREErFOURsIVErS",
    "IXsEVENrEIGHTrNINErTENsWENTYsHIRTYrFORTYsIFTYrSIXTYsEVENTYrEIGHTYrNINETYkHUNDREDS UNIT MARK???aMARCHEN",
    " HEAD MARKiMARK SHADiLETTER KAqHApGApNGApCAqHApJApNYApTAqHApDApNApPAqHApBApMApTSArHApDZApWApZHAqAp-ApY",
    "ApRApLApSHAqApHApA??iSUBJOINED LETTER KAzbHAzaGAzaNGAzaCAzbHAzaJAzaNYAzaTAzbHAzaDAzaNAzaPAzbHAzaBAzaMA",
    "zaTSAzcHAzaDZAzaWAzaZHAzbA?zaYAzaRAzaLAzaSHAzbAzaHAzaAiVOWEL SIGN AAtItUtEtOiSIGN ANUSVARAnCANDRABINDU"]),
  (0x11D00, ["aMASARAM GONDI LETTER AwAvIwIvUwUvE?vAIvO?vAUvKAwHAvGAwHAvNGAvCAwHAvJAwHAvNYAvTTAxHAvDDAxHAvNN",
    "AvTAwHAvDAwHAvNAvPAwHAvBAwHAvMAvYAvRAvLAvVAvSHAwSAwAvHAvLLAvKSSAvJNYAvTRAoVOWEL SIGN AAzaIzbIzaUzbUzaV",
    "OCALIC R???zaE?zaAIzaO?zaAUoSIGN ANUSVARAtVISARGAtNUKTAtCANDRAtHALANTAoVIRAMAoREPHApA-KARA"]),
  (0x11D50, ["aMASARAM GONDI DIGIT ZEROuONEuTWOvHREEuFOURvIVEuSIXvEVENuEIGHTuNINE??????aGUNJALA GONDI LETTER",
    " AwAvIwIvUwU?vEEvAI?vOOvAUvYAvVAvBAwHAvMAvKAwHAvTAwHAvLAvGAwHAvDAwHAvNAvCAwHAvTTAxHAvLLAvJAwHAvDDAxHAv",
    "NGAvPAwHAvHAvRAvSAoVOWEL SIGN AAzaIzbIzaUzbU?zaEEzaAI?zaOOzaAUoSIGN ANUSVARAtVISARGAoVIRAMAoOM???????o",
    "DIGIT ZEROuONEuTWOvHREEuFOURvIVEuSIXvEVENuEIGHTuNINE"]),
  (0x11EE0, ["aMAKASAR LETTER KApGApNGApPApBApMApTApDApNApCApJApNYApYApRApLApVApSApAiANGKAiVOWEL SIGN ItUtEt",
    "OiPASSIMBANGiEND OF SECTION"]),
  (0x11FB0, ["aLISU LETTER YHA"]),
  (0x11FC0, ["aTAMIL FRACTION ONE THREE-HUNDRED-AND-TWENTIETHtONE-HUNDRED-AND-SIXTIETHtEIGHTIETHtSIXTY-FOURT",
    "HtFORTIETHtTHIRTY-SECONDpTHREE EIGHTIETHSvSIXTY-FOURTHSpONE TWENTIETHtSIXTEENTH-1ze2tTENTHtEIGHTHpTHRE",
    "E TWENTIETHSvSIXTEENTHSpONE FIFTHtQUARTERtHALF-1y2pTHREE QUARTERSpDOWNSCALING FACTOR KIIZHgSIGN NELlCE",
    "VITUlAAZHAAKKUlUZHAKKUlMUUVUZHAKKUlKURUNIlPATHAKKUlMUKKURUNIlKAACUlPANAMmONlVARAAKANlPAARAMlKUZHIlVELI",
    "gWET CULTIVATION SIGNgDRY CULTIVATION SIGNgLAND SIGNgSALT PAN SIGNgTRADITIONAL CREDIT SIGNsNUMBER SIGN",
    "gCURRENT SIGNgAND ODD SIGNgSPENT SIGNgTOTAL SIGNgIN POSSESSION SIGNgSTARTING FROM SIGNhIGN MUTHALIYAlV",
    "AKAIYARAA"]),
  (0x11FFF, ["aTAMIL PUNCTUATION END OF TEXTaCUNEIFORM SIGN Aq TIMES AxBADxGAN2 TENUxHAxIGIxLAGAR GUNUxMUSHx",
    "SAGq2qBr TIMES ASH2yDUN3 GUNUyGALzbN2 TENUyHAyIGI GUNUzaMINyLAGABySHESHyU PLUS U PLUS UsGUNUr2s TIMES ",
    "BALAGzaGAN2 TENUzaME PLUS ENzaSHA3zaTAK4qDqKr TIMES ERIN2ySHITA PLUS GISHqLr TIMES ALyDIM2yGISHyHAyKAD",
    "3zaIySHEyUSHrANrEPHqMARt TIMES SHEqNr OVER ANsTHREE TIMESsPLUS NAGA OPPOSING AN PLUS NAGAzdSQUAREDrSHE",
    "qPINqRADt TIMES KURrKABqSAL2rHs ZIDA TENUtKABA TENUtOVER ASH TUG2 OVER TUG2 TUG2 OVER TUG2 PAPzdOVER A",
    "SHzl CROSSING ASH OVER ASH OVER ASHs2sGABpBArDrG3rHAR2rLs OVER BALsAGrRsA2qIr TIMES AyGARyIGI GUNUqUr ",
    "OVER BU ABzbUNsCROSSING BUrLUGu OVER BULUGrRs2pDArGs KISIM5 TIMES A PLUS MASHziMARzhBALAGziIzhGAzj PLU",
    "S MASHziIzjR2ziUDzhHAzhIRzj PLUS LUzhKAKzhLAziUzj PLUS MASH2zjMzhNEzhPAP PLUS PAPzhSIzhTAK4zhU2 PLUS G",
    "IR2ziSHrMrRsA3t4qIrBrMs TIMES SHEs2rNs KASKAL U GUNU DISHrSHqUr OVER DUsGUNUsSHESHIGrBs TIMES ESH2s2rG",
    "sUDrHrNs3t GUNUy GUNUs4rR2pEq TIMES PAPrOVER E NUN OVER NUNq2r TIMES A PLUS HA PLUS DAyGARyMIySALzaHEy",
    "UqDINqGIRqLqNr TIMES GAN2zd TENUyMEsCROSSING ENsOPPOSING ENsSQUAREDqRENrIN2qSH2qZENt TIMES Azc PLUS LA",
    "Lzl TIMES LALzcNzbBADzbDUN3 GUNUzk GUNUzbHAzd GUNUzbIGI GUNUzbKASKALzh SQUAREDzcU3zbLAzdL TIMES LALzcI",
    "zcUzbU2zcDpGAr GUNUr2s TIMES A PLUS DA PLUS HAzhHAzhIGIzbB2 TENU PLUS TABzbNzbSHzd2 PLUS GALzaBADzcR P",
    "LUS RAzbURzd PLUS RAzaDAzbIzcM TIMES SHEzbUBzaELzc PLUS LAzbNzc TIMES GAN2 TENUzaGAN2 TENUzcRzbIzc4zd ",
    "PLUS AzcR2 PLUS SUzaHA PLUS LU PLUS ESH2zcLzd PLUS LAzbI PLUS LIzbUB2zaIGI GUNUzbSH PLUS HU PLUS ASHza",
    "KAKzcSKALzbIDzd PLUS LALzbU3 PLUS ANzaLAzaME PLUS ENzbIzaNUNzd OVER NUNzaPAzaSALzcRzbHEzd PLUS TURzcID",
    "zbUMzaTAK4zaUzbDzc PLUS DUtOVER GA2rBAt CROSSING GABArDs OVER GAD GAR OVER GARrLs GAD OVER GAD GAR OVE",
    "R GARsAMrMrNs2t TENUuOVER GAN2uCROSSING GAN2rRs3rSHANqESHTINw TIMES KURqIr TIMES EyUsCROSSING GIr4s OV",
    "ER GI4tCROSSING GI4rDIMrR2t GUNUs3t TIMES A PLUS IGIzbGAN2 TENUzbIGIzbLU PLUS IGIzbPArSALsHt CROSSING ",
    "GISHuTIMES BADzbTAK4vENUqUr CROSSING GUr2s TIMES KAKzd TIMES IGI GUNUzaNUNzaSAL PLUS TUG2tGUNUrDs TIME",
    "S A PLUS KURzaKURtOVER GUD LUGALrLrMs TIMES SHErRs7sUNtSHpHAr TENUsGUNUrLqIr TIMES ASHzc2yBADyDISHyGAD",
    "yKINyNUNySHEyUqUrB2t TIMES ANzbHALzbKASKALzbLISHzbUDrL2pIq AqBqDIMt OVER IDIM BURzfSQUAREDqGrIs DIBtRI",
    "tOVER IGI SHIR OVER SHIR UD OVER UDtGUNUqLr TIMES GAN2 TENUr2qMr TIMES TAK4sCROSSING IMsOPPOSING IMsSQ",
    "UAREDrINqNqRqSHpKAr TIMES AzaDzb PLUS KU3zaSH2yBADzbLAGzbRzaIyERIN2zaSH2yGAzbLzbN2 TENUzbRzc PLUS SHA3",
    " PLUS AzaIzbR2zbSH PLUS SARzeCROSSING GISHzaUzbR7yIGIzaMyKAKzaIzbDyLIzaUyMEzb PLUS DUzhGIzhTEzaIzb PLU",
    "S NUNUZyNEzaUNyPIyRUySAzbRzaHAzbEzbIDzbUzaIGzaUHURyTARyUza2zaDzaMUM TIMES PAzaSHyZIr2s CROSSING KA2rBr",
    "D2s3s4s5t OVER KAD5rKs TIMES IGI GUNUrLs TIMES BADtCROSSING KALrM2s4rSKALv LAGAB TIMES U OVER LAGAB TI",
    "MES UwOVER KASKAL LAGAB TIMES U OVER LAGAB TIMES UqESH2qIr TIMES BADyUzaDrDrNrSALsHsIM5v OVER KISIM5qU",
    "r OVER HI TIMES ASH2 KU OVER HI TIMES ASH2r3r4s VARIANT FORMr7rLs GUNUrNrRs OPPOSING KURrSHU2qWU318pLA",
    "rGABu TIMES Azd PLUS DA PLUS HAzjGARzjLALzdLzdNzdSH ZIDA TENUzcBADzdIzcDARzcENzcGAzeRzdUDzf PLUS GUDzc",
    "HAzeLzdI TIMES NUNzcIGI GUNUzdMze PLUS HAzkLUzcKIzeNzdU3zeLzf PLUS HI PLUS AzcLAGABzdISHzdUzeLzcMEze P",
    "LUS ENzdUSHzcNEzcSHE PLUS SUMzeITA PLUS GISH PLUS ERIN2zsTENUzeU2zg PLUS SHU2zdUMzcTAGzeK4zdE PLUS A P",
    "LUS SU PLUS NAzcUzd PLUS AzjU PLUS Uzd2 PLUS ASHzdDzdSHvSQUAREDtRu TIMES SHEzf PLUS SUMvGUNUza OVER LA",
    "GAR GUNU SHErHSHUrLs TIMES LALrMs TIMES KURzd PLUS RUqIrLrMMU2rSHqUr TIMES BADr2s TIMES ALzaBADzaESH2z",
    "e TENUzaGAN2 TENUzaHI TIMES BADzaIMzaKAD2zd3ze PLUS ASHzbIzaLA PLUS ASHzcGABzaME PLUS ENzaNEzbUzaSI PL",
    "US ASHzcK2 PLUS BUzaTUG2uENUtCROSSING LU2tOPPOSING LU2tSQUAREDuHESHIGr3rGALu OVER LUGALwPPOSING LUGALv",
    "SHESHIGrHrLrMs OVER LUMzc GAR OVER GARpMAr TIMES TAK4sGUNUr2rHrRrSHt2qErSqIrNqUr OVER MUrGs GUNUrNSUBr",
    "RGU2rSHt TIMES AzbKURzbZAuOVER MUSHze TIMES A PLUS NAuCROSSING MUSHt3u TIMES Azd PLUS DIzcDIvGUNUpNAr2",
    "rGAt INVERTEDuTIMES SHU TENUuOPPOSING NAGAtRrM NUTILLUrMs2qEr TIMES AyUDsSHESHIGqIr TIMES Er2rMs TIMES",
    " GAN2 TENUzcR PLUS GAN2 TENUrNDA2v TIMES ANzeSHzg PLUS ASHzdGUDzdME PLUS GAN2 TENUzdNEzeUNzdSHEzg PLUS",
    " A ANznSHzp PLUS ASHzdU2 PLUS ASHzeSHrSAGqUr11rNs LAGAR TIMES GARzgMASHzgSALzj OVER NUN LAGAR TIMES SA",
    "LzgUSHtTENUtOVER NUNtCROSSING NUNzg LAGAR OVER LAGARsUZu AB2 TIMES ASHGABzgBIzgDUGzgGUDzgIGI GUNUzgKAD",
    "3zgLAzgNEzgSILA3zgU2vKISIM5 TIMES BIzl UpPArDrNrPqESH2qIr TIMES AzaByBIzaUyEyIzaByUza2sCROSSING PIrRIG",
    "u TIMES KALzcUDzcZAvOPPOSING PIRIGpRArBqIqUpSArG NUTILLUrGs TIMES AzaDUzcBzaHAzaKAKzbURzaLUMzaMIzaNUNz",
    "aSALzbHIDzaTABzaU2zbBzbMzbRzbSHtOVER SAGtGUNUrLs LAGAB TIMES ASH2rNGA2rRqHAs3t TIMES AzbBADzbGISHzbNEz",
    "bSHU2zbTURzbUzc PLUS As6sB6sR2rEs HUtOVER SHE GAD OVER GAD GAR OVER GARzdTAB OVER TAB GAR OVER GARsG9s",
    "NsSHu2uLAMrIDt TIMES AzbIMsMt TIMES AzbBALzcULUGzbDINzbGARzbIGIze GUNUzbKUSHU2zbLULzbMUGzbSALsNIGsRt T",
    "ENUuOVER SHIR BUR OVER BURsTArUs OVER INVERTED SHUs2sBURqIr GUNUrGs4t OVER SIG4 SHU2rK2rLA3qUr OVER SU",
    "rDs2rHURrMsASHrRs9pTAr ASTERISKsTIMES HIyMIsGUNUrBs OVER TAB NI OVER NI DISH OVER DISHtSQUAREDrGs TIME",
    "S BIzaGUDzaSHEzcUzaTUG2zaUDrK4rRqEr GUNUqIr TENUrLrRs TIMES TAK4tOVER TIRzc GAD OVER GAD GAR OVER GARq",
    "UrG2rKrMrRs OVER TUR ZA OVER ZApUq GUDrU UrOVER U PA OVER PA GAR OVER GARySUR OVER SURyU REVERSED OVER",
    " U REVERSEDq2qBqDr KUSHU2sTIMES BADyMIyU PLUS U PLUS Uzo GUNUsGUNUsSHESHIGza TIMES BADrUGqMr TIMES LAG",
    "AByME PLUS DAySHA3yUrBINrUMt TIMES KASKALzbPAqNr GUNUqRr CROSSING URsSHESHIGr2s TIMES A PLUS HAzhNAzbL",
    "zaHAzaNUNzaU2zc PLUS ASHziBIr4rIs3rUs TIMES AzbSHGABzaBARzaDUNzaGAzcLzcN2 TENUzcRzbUzaHAzaIGIzbMzbSHza",
    "KIzaLUMzaMINzaPAzaSHEzbIG4zaTUzaU PLUS GUDzbDzbRUDAsDAu TIMES UqSHs TIMES AzaKUzcRzaTAK4sXs2sUMXqTUKIq",
    "Z3s TIMES KASKALrUpZAr TENUsSQUARED TIMES KURrGrMXqE2qIr OVER ZIr3rBs KABA TENUrGrZ2qUr5s TIMES ArBURr",
    "MpKAP ELAMITEpAB TIMES NUNr2 TIMES AqMAR TIMES KUGpDAG KISIM5 TIMES U2 PLUS MASHs3qISH PLUS SHUqUB TIM",
    "ES SHEpEZEN TIMES GUDzbSHEpGA2 TIMES AN PLUS KAK PLUS AzbSH2qE22qIGpHUSHpKA TIMES ANSHEzaSH3yGISHzaUDy",
    "HI TIMES ASH2yLUMyPAySHULyTUyUR2pLAGAB TIMES GIqU2 SHESHIG TIMES BADtTIMES ESH2 PLUS LALzaSHUpMESHqUSH",
    "3 TIMES ZApNA4qINs9sDA2 TIMES BALzdGIqU11 ROTATED NINETY DEGREESpPESH2 ASTERISKqIR2pSAG TIMES IGI GUNU",
    "pTI2pUM TIMES MEq U"]),
  (0x12400, ["aCUNEIFORM NUMERIC SIGN TWO ASHyHREE ASHxFOUR ASHyIVE ASHxSIX ASHyEVEN ASHxEIGHT ASHxNINE ASHx",
    "THREE DISHxFOUR DISHyIVE DISHxSIX DISHyEVEN DISHxEIGHT DISHxNINE DISHxFOUR UyIVE UxSIX UyEVEN UxEIGHT ",
    "UxNINE UxONE GESH2xTWO GESH2yHREE GESH2xFOUR GESH2yIVE GESH2xSIX GESH2yEVEN GESH2xEIGHT GESH2xNINE GES",
    "H2xONE GESHUxTWO GESHUyHREE GESHUxFOUR GESHUyIVE GESHUxTWO SHAR2yHREE SHAR2zj VARIANT FORMxFOUR SHAR2y",
    "IVE SHAR2xSIX SHAR2yEVEN SHAR2xEIGHT SHAR2xNINE SHAR2xONE SHARUxTWO SHARUyHREE SHARUzj VARIANT FORMxFO",
    "UR SHARUyIVE SHARUxSHAR2 TIMES GAL PLUS DISHztMINxONE BURUxTWO BURUyHREE BURUzi VARIANT FORMxFOUR BURU",
    "yIVE BURUxTHREE VARIANT FORM ESH16zu21xFOUR VARIANT FORM LIMMUzv4zv AzwBxSIX VARIANT FORM ASH9yEVEN VA",
    "RIANT FORM IMIN3zv AzwBxEIGHT VARIANT FORM USSUzv3xNINE VARIANT FORM ILIMMUzw3zw4zw AxTWO ASH TENUyHRE",
    "E ASH TENUxFOUR ASH TENUyIVE ASH TENUxSIX ASH TENUxONE BAN2xTWO BAN2yHREE BAN2xFOUR BAN2zh VARIANT FOR",
    "MyIVE BAN2zh VARIANT FORMxNIGIDAMINzeESHxONE ESHE3xTWO ESHE3xONE THIRD DISHxTWO THIRDS DISHxFIVE SIXTH",
    "S DISHxONE THIRD VARIANT FORM AxTWO THIRDS VARIANT FORM AxONE EIGHTH ASHzcQUARTER ASHyLD ASSYRIAN ONE ",
    "SIXTHzpQUARTERyNE QUARTER GURzcHALF GURxELAMITE ONE THIRDzgTWO THIRDSzgFORTYzhIFTYxFOUR U VARIANT FORM",
    "yIVE U VARIANT FORMxSIX U VARIANT FORMyEVEN U VARIANT FORMxEIGHT U VARIANT FORMxNINE U VARIANT FORM?kP",
    "UNCTUATION SIGN OLD ASSYRIAN WORD DIVIDERzcVERTICAL COLONzcDIAGONAL COLONzlTRICOLONzlQUADCOLON"]),
  (0x12480, ["aCUNEIFORM SIGN AB TIMES NUN TENUySHU2qD TIMES ESH2pBAD TIMES DISH TENUrHAR2 TIMES AB2zdNIzdZA",
    "qU OVER BU TIMES NA2pDA TIMES TAK4rG TIMES KURqIM TIMES IGIzaU U Us2 TIMES UDqUG TIMES ANSHEzbSHzd AT ",
    "LEFTzaDINzbUNzaERIN2zaGAzbIzcR2 GUNUzcSHzaHAzbIzaIGI GUNUzaKASKALzbURzcSHU2zg PLUS KASKALzaLAK-020zcMz",
    "d TIMES KURzbUH PLUS GISHzaMASHzbESzbIzaNIzaPIzaSHEzbI GUNUpE2 TIMES KURyPAPqRIN2 XqSH2 CROSSING ESH2q",
    "ZEN SHESHIG TIMES ASHzjHIzjIGI GUNUzjLAzlLzjMEzlSzjSUuTIMES SUpGA2 TIMES BAHAR2zaDIM GUNUzbUG TIMES IG",
    "I GUNUzkKASKALzaERENzaGAzcR PLUS DIzjNEzaHA PLUS AzaKUSHU2 PLUS KASKALzaLAMzd TIMES KURzbUHzaMUSHzaNEz",
    "c PLUS E2ziGIzaSHIMzaZIZ2rBA ROTATED NINETY DEGREESqESHTIN TIMES UqISH TIMES GISH CROSSING GISHqU2 TIM",
    "ES IGI GUNUrD PLUS GISH TIMES TAK4pHA TENU GUNUqI TIMES ASH OVER HI TIMES ASHpKA TIMES BUyKAyU U UzaRp",
    "LAGAB TIMES ZU OVER ZUrK-003u21v5u30u50v1u62u79 OVER LAK-079 GUNUu80v1 OVER LAK-081u92t130u42t210v9u20",
    "v5v8u38u65v6t343v7v8u83v4u90t441v9w TIMES GUzeIGIzePAP PLUS LU3znPAP PLUS LU3zeU2 PLUS BAu50v7u70u83u9",
    "0v2v3v5t550t608u17w TIMES ASHzeBADzeDUN3 GUNU GUNUzeKU3zeLAzeTARzfEzeU2zfDzfRUDAu36u48w TIMES DUBzeGAz",
    "eIGIzh GUNUzeNIzePAP PLUS PAP PLUS LU3zeSHESH PLUS KIzeUDzfRUDAt724u49qU2 GUNU TIMES ASHtTIMES DISHzaH",
    "ALzaPAPzd PLUS PAP PLUS LU3zaTAK4pMI PLUS ZA7qUSH OVER MUSH TIMES GAzlKAKpNINDA2 TIMES DIM GUNUzdGISHz",
    "eULzdHIzdKESH2zdLAK-050zdMASHzdPAP PLUS PAPzdUze PLUS UzeRUDApSAG GUNU TIMES HAtTIMES ENzaSHE AT LEFTz",
    "aTAK4qHA6 TENUrE OVER SHEtPLUS HUB2yNAM2ySARrU2 PLUS DUG TIMES NIzaE2 TIMES ANqI TIMES TAK4pTAK4 PLUS ",
    "SAGqUM TIMES GAN2 TENUzaTHREE DISHpUR2 INVERTEDtTIMES UDrU TIMES DARA3zaLAK-668zbU3pZA7qU OVER ZU PLUS",
    " SARr5 TIMES THREE DISH TENU"]),
  (0x12F90, ["aCYPRO-MINOAN SIGN CM001w2w4w5w6w7w8w9v10w1w2xBw3w5w7w9v21w3w4w5w6w7w8w9v30w3w4w5w6w7w8w9v40w1",
    "w4w6w7w9v50w1w2w3w4w5w6w8w9v60w1w2w3w4w6w7w8w9v70w1w2w3w4w5xBw6w8w9v80w1w2w3w4w5w6w7w8w9v90w1w2w4w5w6w",
    "7w8w9u100w1w2w3w4w5w7w8w9v10w2w4u301w2"]),
  (0x13000, ["aEGYPTIAN HIEROGLYPH A001x2x3x4x5yAx6yAyBx7x8x9w10x1x2x3x4yAx5x6x7yAx8x9w20x1x2x3x4x5x6x7x8x9w",
    "30x1x2yAx3x4x5x6x7x8x9w40yAx1x2yAx3yAx4x5yAx6x7x8x9w50x1x2x3x4x5x6x7x8x9w60x1x2x3x4x5x6x7x8x9w70uB001x",
    "2x3x4x5yAx6x7x8x9uC001x2yAyByCx3x4x5x6x7x8x9w10yAx1x2x3x4x5x6x7x8x9w20x1x2x3x4uD001x2x3x4x5x6x7x8yAx9w",
    "10x1x2x3x4x5x6x7x8x9w20x1x2x3x4x5x6x7yAx8x9w30x1yAx2x3x4yAx5x6x7x8x9w40x1x2x3x4x5x6yAx7x8yAx9w50yAyByC",
    "yDyEyFyGyHyIx1x2yAx3x4yAx5x6x7x8x9w60x1x2x3x4x5x6x7yAyByCyDyEyFyGyHuE001x2x3x4x5x6x7x8yAx9yAw10x1x2x3x",
    "4x5x6yAx7yAx8x9w20yAx1x2x3x4x5x6x7x8yAx9w30x1x2x3x4yAx6x7x8uF001yAx2x3x4x5x6x7x8x9w10x1x2x3yAx4x5x6x7x",
    "8x9w20x1yAx2x3x4x5x6x7x8x9w30x1yAx2x3x4x5x6x7yAx8yAx9w40x1x2x3x4x5yAx6yAx7yAx8x9w50x1yAyByCx2x3uG001x2",
    "x3x4x5x6yAx7yAyBx8x9w10x1yAx2x3x4x5x6x7x8x9w20yAx1x2x3x4x5x6yAx7x8x9w30x1x2x3x4x5x6yAx7yAx8x9w40x1x2x3",
    "yAx4x5yAx6x7x8x9w50x1x2x3x4uH001x2x3x4x5x6yAx7x8uI001x2x3x4x5yAx6x7x8x9yAw10yAx1yAx2x3x4x5uK001x2x3x4x",
    "5x6x7x8uL001x2yAx3x4x5x6yAx7x8uM001yAyBx2x3yAx4x5x6x7x8x9w10yAx1x2yAyByCyDyEyFyGyHx3x4x5yAx6yAx7yAx8x9",
    "w20x1x2yAx3x4yAx5x6x7x8yAx9w30x1yAx2x3yAyBx4x5x6x7x8x9w40yAx1x2x3x4uN001x2x3x4x5x6x7x8x9w10x1x2x3x4x5x",
    "6x7x8yAyBx9w20x1x2x3x4x5yAx6x7x8x9w30x1x2x3yAx4yAx5yAx6x7yAx8x9w40x1x2vL001y2y3y4y5zaAy6y7y8y9x10y1y2y",
    "3y4y5y6y7zaAy8y9x20vU001y2y3y4y5y6y7y8y9x10zaAy1zaAy2y3y4y5y6y7y8zaAy9x20y1y2zaAuO001yAx2x3x4x5yAx6yAy",
    "ByCyDyEyFx7x8x9w10yAyByCx1x2x3x4x5x6x7x8x9yAw20yAx1x2x3x4yAx5yAx6x7x8x9yAw30yAx1x2x3yAx4x5x6yAyByCyDx7",
    "x8x9w40x1x2x3x4x5x6x7x8x9w50yAyBx1uP001yAx2x3yAx4x5x6x7x8x9w10x1uQ001x2x3x4x5x6x7uR001x2yAx3yAyBx4x5x6",
    "x7x8x9w10yAx1x2x3x4x5x6yAx7x8x9w20x1x2x3x4x5x6x7x8x9uS001x2yAx3x4x5x6yAx7x8x9w10x1x2x3x4yAyBx5x6x7yAx8",
    "x9w20x1x2x3x4x5x6yAyBx7x8x9w30x1x2x3x4x5yAx6x7x8x9w40x1x2x3x4x5x6uT001x2x3yAx4x5x6x7yAx8yAx9yAw10x1yAx",
    "2x3x4x5x6yAx7x8x9w20x1x2x3x4x5x6x7x8x9w30x1x2yAx3yAx4x5x6uU001x2x3x4x5x6yAyBx7x8x9w10x1x2x3x4x5x6x7x8x",
    "9w20x1x2x3yAx4x5x6x7x8x9yAw30x1x2yAx3x4x5x6x7x8x9w40x1x2uV001yAyByCyDyEyFyGyHyIx2yAx3x4x5x6x7yAyBx8x9w",
    "10x1yAyByCx2yAyBx3x4x5x6x7x8x9w20yAyByCyDyEyFyGyHyIyJyKyLx1x2x3yAx4x5x6x7x8yAx9yAw30yAx1yAx2x3yAx4x5x6",
    "x7yAx8x9w40yAuW001x2x3yAx4x5x6x7x8x9yAw10yAx1x2x3x4yAx5x6x7yAx8yAx9w20x1x2x3x4yAx5uX001x2x3x4yAyBx5x6y",
    "Ax7x8yAuY001yAx2x3x4x5x6x7x8uZ001x2yAyByCyDx3yAyBx4yAx5yAx6x7x8x9w10x1x2x3x4x5yAyByCyDyEyFyGyHyIx6yAyB",
    "yCyDyEyFyGyHuAA001y2y3y4y5y6y7zaAzaBy8y9x10y1y2y3y4y5y6y7y8y9x20y1y2y3y4y5y6y7y8y9x30y1y2?uVERTICAL JO",
    "INERuHORIZONTAL JOINERuINSERT AT TOP STARTzfBOTTOM STARTzfTOP ENDzfBOTTOM ENDuOVERLAY MIDDLEuBEGIN SEG",
    "MENTuEND SEGMENT"]),
  (0x14400, ["aANATOLIAN HIEROGLYPH A001y2y3y4y5y6y7y8y9x10zaAy1y2y3y4y5y6y7y8y9x20y1y2y3y4y5y6zaAy7y8y9x30y",
    "1y2y3y4y5y6y7y8y9zaAx40y1zaAy2y3y4y5zaAy6zaAzaBy7y8y9x50y1y2y3y4y5y6y7y8y9x60y1y2y3y4y5y6zaAzaBzaCy7y8",
    "y9x70y1y2y3y4y5y6y7y8y9x80y1y2y3y4y5y6y7y8y9x90y1y2y3y4y5y6y7zaAy8zaAy9w100zaAy1zaAy2zaAy3y4zaAzaBzaCy",
    "5zaAzaBy6y7zaAzaBzaCy8y9x10zaAzaBy1y2y3y4y5zaAy6y7y8y9x20y1y2y3y4y5zaAy6y7y8y9x30y1y2y3y4y5zaAy6y7y8y9",
    "x40y1y2y3y4y5y6y7y8y9x50y1y2y3y4y5y6y7y8y9x60y1y2y3y4y5y6y7y8y9x70y1y2y3y4y5y6y7y8y9x80y1y2y3y4y5y6y7y",
    "8y9x90y1y2y3y4y5y6y7y8y9w200y1y2zaAzaBy3y4y5y6y7zaAy8y9zaAx10y1y2y3y4y5zaAy6zaAy7y8y9x20y1y2y3y4y5y6y7",
    "zaAy8y9x30y1y2y3y4y5y6y7y8y9x40y1y2y3y4y5y6y7y8y9x50y1y2y3y4y5y6y7y8y9x60y1y2y3y4y5y6y7zaAy8y9x70y1y2y",
    "3y4y5y6y7y8y9x80y1y2y3y4y5y6y7y8y9zaAx90y1y2y3y4zaAy5y6y7y8y9zaAw300y1y2y3y4y5y6y7y8y9zaAx10y1y2y3y4y5",
    "y6y7y8y9x20y1y2y3y4y5y6y7y8y9zaAx30y1y2AzaBzaCy3y4y5y6zaAzaBzaCy7y8y9x40y1y2y3y4y5y6y7y8y9x50y1y2y3y4y",
    "5y6y7y8y9zaAx60y1y2y3y4zaAy5y6y7y8zaAy9x70y1zaAy2y3y4y5y6y7y8y9x80y1zaAy2y3 RA OR RIzaAy4y5y6zaAy7y8y9",
    "x90y1y2y3 EIGHTy4y5y6y7y8y9w400y1y2y3y4y5y6y7y8y9x10 BEGIN LOGOGRAM MARKzaA END LOGOGRAM MARKy1y2y3y4y",
    "5y6y7y8y9x20y1y2y3y4y5y6y7y8y9x30y1y2y3y4y5y6y7y8y9x40y1y2y3y4y5y6y7y8y9x50zaAy1y2y3y4y5y6y7zaAy8y9x60",
    "y1y2y3y4y5y6y7y8y9x70y1y2y3y4y5y6y7y8y9x80y1y2y3y4y5y6y7y8y9x90y1y2y3y4y5y6y7w501y2y3y4y5y6y7y8y9x10y1",
    "y2y3y4y5y6y7y8y9x20y1y2y3y4y5y6y7y8y9x30"]),
  (0x16800, ["aBAMUM LETTER PHASE-A NGKUE MFONvGBIEE FONvPON MFON PIPAEMGBIEEzlBAvNAA MFONvSHUENSHUETvTITA M",
    "FONvNZA MFONvSHINDA PA NJIvPON PA NJI PIPAEMGBIEEznBAvMAEMBGBIEEvTU MAEMBAvNGANGUvMAEMVEUXxNSUAEwVEUAE",
    "NGAMvSEUNYAMvNTOQPENvKEUKEUTNDAvNKINDIvSUUvNGKUENZEUMvLAPAQwET KUTvNTAP MFAAvMAEKEUPvPASHAEvGHEUAERAEv",
    "PAMSHAEvMON NGGEUAETvNZUN MEUTvU YUQ NAEvGHEUAEGHEUAEvNTAP NTAAvSISAvMGBASAwEUNJOMNDEUQwOOMPUQvKAFAvPA",
    " LEERAEWAvNDA LEERAEWAvPETvMAEMKPENvNIKAvPUPvTUAEPvLUAEPvSONJAMvTEUTEUWENvMAENYIvKETvNDAANGGEUAETvKUOQ",
    "vMOOMEUTvSHUMvLOMMAEvFIRIvROMvKPOQvSOQvMAP PIEETvSHIRAEvNTAPvSHOQ NSHUT YUMvNYIT MONGKEUAEQvPAARAEvNKA",
    "ARAEvUNKNOWNvNGGENvMAESIvNJAMvMBANYIvNYETvTEUAENvSOTvPAAMvNSHIEEvMAEMvNYIvKAQvNSHAvVEEvLUvNENwAQvMBAQt",
    "B NSHUETvTU MAEMGBIEEvSIEEwET TUvLOM NTEUMvMBA MAELEEvKIEEMvYEURAEvMBAARAEvKAMvPEESHIvYAFU LEERAEWAvLA",
    "M NSHUT NYAMvNTIEE SHEUOQwDU NJAAvGHEUGHEUAEMvPITvTU NSIEEvSHET NJAQyUAEQTUvMFON TEUAEQwBIT MBAAKETvNY",
    "I NTEUMvKEUPUQvGHEUGHENvKEUYEUXvLAANAEvPARUMvVEUMvNGKINDI MVOPxGEU MBUvWUAETvSAKEUAEvTAAMvMEUQvNGGUOQz",
    "c LARGEvMFIYAQvSUEvMBEURIwONTIEENvNYAEMAEvPUNGAAMvMEUT NGGEETvFEUXvMBUOQvFEEvKEUAEMvMA NJEUAENAzbUQAvL",
    "ETvNGGAAMwSENvMAvKIQvNGOMtC NGKUE MAEMBAwZAvYUMvWANGKUOQvNGGENwDEUAEREEwGKAQvGHARAEvMBEEKEETvGBAYIvNYI",
    "R MKPARAQ MEUNwTU MBITvMBEUMvPIRIEENvNDOMBUvMBAA CABBAGE-TREEvKEUSHEUAEPvGHAPvKEUKAQvYU MUOMAEvNZEUMvM",
    "BUEvNSEUAENvMBITvYEUQvKPARAQwAAvSEUXvNDIDAvTAASHAEvNJUEQvTITA YUEvSUAETvNGGUAEN NYAMvVEUXvNANSANAQvMA ",
    "KEUAERIvNTAAwGGUONvLAPvMBIRIEENwGBASAQvNTEUNGBAvTEUTEUXvNGGUMvFUEvNDEUTwSAxHAQvBUNGvVEUAEPENvMBERAEvRU",
    "vNJAEMvLAMvTITUAEPvNSUOT NGOMwJEEEEvKETvNGGUvMAESIwBUAEMvLUvKUTvNJAMwGOMvWUPvNGGUEETwSOMwTENvKUOP NKAA",
    "RAEvNSUNwDAMvMA NSIEEvYAAvNDAPvSHUEQwETFONvMBIwAEMBAwBANYIvKEUSEUXvMBEUXvKEUMvMBAA PICKETvYUWOQvNJEUXv",
    "MIEEwUAEvSHIQvKEN LAWzaFATIGUEvNGAQwAQvLIQvPINwENvTETtD MBUOvWAPvNJIvMFONvNJIEEvLIEEvNJEUTwSHEEwGGAAMA",
    "EwYAMvWUAENvNGKUNvSHEEvNGKAPvKEUAETMEUNvTEUTvSHEUAEvNJAPvSUEvKETvYAEMMAEvKUOMvSAPvMFEUTvNDEUXvMALEERIw",
    "EUTvSEUAEQvYENvNJEUAEMvKEUOT MBUAEvNGKEURIvTUvGHAAvNGKYEEvFEUFEUAETvNDEEvMGBOFUMvLEUAEPvNDONvMONIwGBEU",
    "NvPUUTvMGBIEEwFOvLUMvNSIEEPvMBAAvKWAETvNYETvTEUAENvSOTvYUWOQvKEUMvRAEMvTEEEEvNGKEUAEQvMFEUAEvNSIEETvKE",
    "UPvPIPwEUTAEvNYUEvLETvNGGAAMvMFIEEvNGGWAENvYUOMvPAPvYUOPvNDAMwTEUMvSUAEvKUNvNGGEUXxKIEEvTUOTvMEUNvKUQv",
    "NSUMvTEUNvMAENJETvNGGAPvLEUMvNGGUOMwSHUTwJUEQvGHEUAEvKUvREN OLDvTAEwOQvNYIvRIIvLEEEEvMEEEEvMvSUUvMUvSH",
    "IIxEUXvKYEEvNUvSHUvNTEEvPEEvNIvSHOQvPUQvMVOPvLOQvREN MUCHvTIvNTUUvMBAA SEVENvSAQvFAAtE NDAPvTOONvMBEUM",
    "vLAPvVOMvLOONvPAAvSOMvRAQvNSHUOPwDUNvPUAEvTAMvNGKAvKPEUXvWUOvSEEvNGGEUAETvPAAMvTOOvKUOPvLOMvNSHIEEwGOP",
    "vMAEMvNGKEUXxOQwSHUEvRIMGBAvNJEUXvPEEMvSAAvNGGURAEvMGBAvGHEUXvNGKEUAEMwJAEMLIvMAPvLOOTvNGGEEEEwDIQvTAE",
    "N NTEUMvSETvPUMvNDAA SOFTNESSwGGUAESHAE NYAMvYIEEvGHEUNvTUAEvYEUAEvPOvTUMAEvKEUAEvSUAENvTEUAEQvVEUAEvW",
    "EUXvLAAMvPUvTAAQvGHAAMAEvNGEUREUTvSHEUAEQvMGBENwBEEvNZAQwKOMvGBETvTUMvKUETvYAPvNYI CLEAVERvYITvMFEUQvN",
    "DIAQvPIEEQvYUEQvLEUAEMvFUEvGBEUXvNGKUPvKETvMAEvNGKAAMIvGHETvFAvNTUMvPEUTvYEUMvNGGEUAEwYI BETWEENwZUQvP",
    "OONvMIEEvFUETvNAEvMUAEvGHEUAEvFU IvMVIvPUAQvNGKUMvKUTvPIETvNTAPvYEUAETvNGGUPvPA PEOPLEvFU CALLwOMvNJEE",
    "vAvTOQvOvIvLAQvPA PLURALvTAAxQvNDAA MY HOUSEvSHIQvYEUXvNGUAEvYUAENwOQ SWIMMINGzaCOVERwUQxNvKEUXvPEUXvN",
    "JEE EPOCHvPUEvWUEvFEEvVEEvLUvMIvREUXwAEvNGUAETxAvSHOyQvFU REMEDYvNAvPIvLOQvKOvMENwAxQvTEUvKIvMONvTENvF",
    "AQvGHOMtF KAvUvKUvEEvREEvTAEvNYIvLAvRIIxEEvMEEEEvTAAvNDAAwJAEMvMvSUUwHIIwIwEUXvKYEEwETvNUAEwUwJUAEvYOQ",
    "vSHUvYAvNSHAvPEUXvNTEEvWUEvPEEvRUvNIvREUXvKENvNGKWAENxGAvSHOvPUAEvFOMvWAvLIwOQvKOvMBENvRENvMAwOwBAAvTE",
    "TvKPAvSAMBAvVUEQ???????aMRO LETTER TAlNGIlYOlMIMlBAlDAlAlPHIlKHAIlHAOlDAIlCHUlKEAAElOLlMAEMlNINlPAlOOl",
    "OlROlSHIlTHEAlEAlWAlElKOlLANmAlHAIlRIlTEK?eDIGIT ZEROkONEkTWOlHREEkFOURlIVEkSIXlEVENkEIGHTkNINE????fAN",
    "DAfOUBLE DANDAaTANGSA LETTER OZpCpQpXoAZpCpQpXoVZpCpQpXoEZpCpQpXoIZpCpQpXoUZpCpQpXoAWZqCqQqXoUIZqCqQqX",
    "oFINAL NGoLONG UEXoSHORT UEZuAWXoUECqZqQqXpIUZrCrQrXoMZpCpQpXoKApHAoGAoNGAoSAoYAoWAoPAoNYAoPHAoBAoMAoN",
    "AoHAoLAoHTAoTAoDAoRAoNHAoSHAoCAoTSAoGHAoHTTAoTHAoXAoFAoDHAoCHAoZA?hDIGIT ZEROnONEnTWOoHREEnFOURoIVEnSI",
    "XoEVENnEIGHTnNINE??????aBASSA VAH LETTER ENNIrKArSErFArMBErYIErGAHrDHIIrKPAHrJOrHWAHrWArZOrGBUrDOrCErU",
    "WUrTOrBArVUrYEINrPArWADDArArOsOrUrEErErI??kCOMBINING HIGH TONEuLOW TONEuMID TONEuLOW-MID TONEuHIGH-LOW",
    " TONEkFULL STOP"]),
  (0x16B00, ["aPAHAWH HMONG VOWEL KEEBwVuIBvVuAUBwVuUBvVuEBvVuAIBwVuOOBwVuAWBwVuUABwVuOBvVuIABwVuABvVuWBvVuA",
    "ABwVnCONSONANT VAUxNTSAUxLAUxHAUxNLAUxRAUxNKAUxQHAUxYAUxHLAUxMAUxCHAUxNCHAUxHNAUxPLHAUxNTHAUyAUxAUxXAU",
    "xCAUnMARK CIM TUBwSOwKESxHAVwSUAMwHOMwTAUMnSIGN VOS THOMxSHAB CEEBsCIM CHEEMsVOS THIABwFEEMsXYEEM NTXI",
    "VyRHOyTOVyFAIBsVOS SEEVsMEEJ SUABsVOS NRUAsIB YAMsXAUSsCIM TSOV ROG"]),
  (0x16B50, ["aPAHAWH HMONG DIGIT ZEROtONEtTWOuHREEtFOURuIVEtSIXuEVENtEIGHTtNINE?nNUMBER TENSuHUNDREDSuTEN T",
    "HOUSANDSuMILLIONSuHUNDRED MILLIONSuTEN BILLIONSvRILLIONS?nSIGN VOS LUBsXYOOsHLIsTHIRD-STAGE HLIsZWJ TH",
    "AJsHNUBsNQIGsXIABsNTUJsAVsTXHEEJ CEEVsMEEJ TSEEBsTAUsLOSsMUSsCIM HAIS LUS NTOG NTOGwCUAM TSHOOJwTXWVzb",
    " CHWVwPUB DAWBwNRES TOS?????nCLAN SIGN TSHEEJxYEEGxLISyAUJxXYOOJxKOOxHAWJxMUASxTHOJySABxPHABxKHABxHAMx",
    "VAJxFAJxYAJxTSWBxKWMxVWJ"]),
  (0x16E40, ["aMEDEFAIDRIN CAPITAL LETTER MzcSzcVzcWzcATIUzcZzcKPzcPzcTzcGzcFzcIzcKzcAzcJzcEzcBzcCzcUzcYUzcL",
    "zcQzcHPzcNYzcXzcDzcOEzcNzcRzcOzcAIzcYmSMALL LETTER MzaSzaVzaWzaATIUzaZzaKPzaPzaTzaGzaFzaIzaKzaAzaJzaEz",
    "aBzaCzaUzaYUzaLzaQzaHPzaNYzaXzaDzaOEzaNzaRzaOzaAIzaYmDIGIT ZEROsONEsTWOtHREEsFOURtIVEsSIXtEVENsEIGHTsN",
    "INEmNUMBER TENtELEVENtTWELVEuHIRTEENtFOURTEENuIFTEENtSIXTEENuEVENTEENtEIGHTEENtNINETEENmDIGIT ONE ALTE",
    "RNATE FORMsTWO ALTERNATE FORMtHREE ALTERNATE FORMmCOMMAmFULL STOPmSYMBOL AIVAmEXCLAMATION OH"]),
  (0x16F00, ["aMIAO LETTER PAmBAmYI PAmPLAmMAnHAmARCHAIC MAmFAmVAnFAmTAmDAmYI TTAqAmTTAmDDAmNAnHAmYI NNAmARC",
    "HAIC NAmNNAoHAmLAnYAnHAoYAmTLHAmDLHAmTLHYAmDLHYAmKAmGAmYI KAmQAnGAmNGAoHAmARCHAIC NGAmHAmXAmGHAoHAmTSS",
    "AmDZZAmNYAoHAmTSHAmDZHAmYI TSHApDZHAmREFORMED TSHAmSHAnSAmZHAnSHAmTSAmDZAmYI TSAmSAmZAnSAnZAoSAmARCHAI",
    "C ZZAmZZYAoSYAmWAmAHmHHAmBRImSYImDZYImTEnSEmRTE????fSIGN CONSONANT MODIFIER BARfLETTER NASALIZATIONfSI",
    "GN ASPIRATIONkREFORMED VOICINGtASPIRATIONfVOWEL SIGN ArArHHrNsGqOrOqWOqWqErNsGqOEYqIrAsNtGrOrErIrUrNGq",
    "UrAsNtGrUrEIrNGqYrIqAEsEqERRqROUNDED ERRqERqROUNDED ERqAIqEIqAUqOUqNrGqUOGqYUIqOGrERqVWqIGqEAqIONGqUI?",
    "??????fTONE RIGHTkTOP RIGHTkABOVEkBELOWfLETTER TONE-2r3r4r5r6r7r8mREFORMED TONE-1zb2zb4zb5zb6zb8"]),
  (0x16FE0, ["aTANGUT ITERATION MARKaNUSHU ITERATION MARKaOLD CHINESE HOOK MARKmITERATION MARKaKHITAN SMALL ",
    "SCRIPT FILLER"]),
  (0x16FF0, ["aVIETNAMESE ALTERNATE READING MARK CAzjNHAY"]),
  (0x18800, ["aTANGUT COMPONENT-001t2t3t4t5t6t7t8t9s10t1t2t3t4t5t6t7t8t9s20t1t2t3t4t5t6t7t8t9s30t1t2t3t4t5t6",
    "t7t8t9s40t1t2t3t4t5t6t7t8t9s50t1t2t3t4t5t6t7t8t9s60t1t2t3t4t5t6t7t8t9s70t1t2t3t4t5t6t7t8t9s80t1t2t3t4t",
    "5t6t7t8t9s90t1t2t3t4t5t6t7t8t9r100t1t2t3t4t5t6t7t8t9s10t1t2t3t4t5t6t7t8t9s20t1t2t3t4t5t6t7t8t9s30t1t2t",
    "3t4t5t6t7t8t9s40t1t2t3t4t5t6t7t8t9s50t1t2t3t4t5t6t7t8t9s60t1t2t3t4t5t6t7t8t9s70t1t2t3t4t5t6t7t8t9s80t1",
    "t2t3t4t5t6t7t8t9s90t1t2t3t4t5t6t7t8t9r200t1t2t3t4t5t6t7t8t9s10t1t2t3t4t5t6t7t8t9s20t1t2t3t4t5t6t7t8t9s",
    "30t1t2t3t4t5t6t7t8t9s40t1t2t3t4t5t6t7t8t9s50t1t2t3t4t5t6t7t8t9s60t1t2t3t4t5t6t7t8t9s70t1t2t3t4t5t6t7t8",
    "t9s80t1t2t3t4t5t6t7t8t9s90t1t2t3t4t5t6t7t8t9r300t1t2t3t4t5t6t7t8t9s10t1t2t3t4t5t6t7t8t9s20t1t2t3t4t5t6",
    "t7t8t9s30t1t2t3t4t5t6t7t8t9s40t1t2t3t4t5t6t7t8t9s50t1t2t3t4t5t6t7t8t9s60t1t2t3t4t5t6t7t8t9s70t1t2t3t4t",
    "5t6t7t8t9s80t1t2t3t4t5t6t7t8t9s90t1t2t3t4t5t6t7t8t9r400t1t2t3t4t5t6t7t8t9s10t1t2t3t4t5t6t7t8t9s20t1t2t",
    "3t4t5t6t7t8t9s30t1t2t3t4t5t6t7t8t9s40t1t2t3t4t5t6t7t8t9s50t1t2t3t4t5t6t7t8t9s60t1t2t3t4t5t6t7t8t9s70t1",
    "t2t3t4t5t6t7t8t9s80t1t2t3t4t5t6t7t8t9s90t1t2t3t4t5t6t7t8t9r500t1t2t3t4t5t6t7t8t9s10t1t2t3t4t5t6t7t8t9s",
    "20t1t2t3t4t5t6t7t8t9s30t1t2t3t4t5t6t7t8t9s40t1t2t3t4t5t6t7t8t9s50t1t2t3t4t5t6t7t8t9s60t1t2t3t4t5t6t7t8",
    "t9s70t1t2t3t4t5t6t7t8t9s80t1t2t3t4t5t6t7t8t9s90t1t2t3t4t5t6t7t8t9r600t1t2t3t4t5t6t7t8t9s10t1t2t3t4t5t6",
    "t7t8t9s20t1t2t3t4t5t6t7t8t9s30t1t2t3t4t5t6t7t8t9s40t1t2t3t4t5t6t7t8t9s50t1t2t3t4t5t6t7t8t9s60t1t2t3t4t",
    "5t6t7t8t9s70t1t2t3t4t5t6t7t8t9s80t1t2t3t4t5t6t7t8t9s90t1t2t3t4t5t6t7t8t9r700t1t2t3t4t5t6t7t8t9s10t1t2t",
    "3t4t5t6t7t8t9s20t1t2t3t4t5t6t7t8t9s30t1t2t3t4t5t6t7t8t9s40t1t2t3t4t5t6t7t8t9s50t1t2t3t4t5t6t7t8t9s60t1",
    "t2t3t4t5t6t7t8"]),
  (0x1AFF0, ["aKATAKANA LETTER MINNAN TONE-2zd3zd4zd5?zd7zd8xNASALIZED TONE-1zn2zn3zn4zn5?zn7zn8?qARCHAIC Ea",
    "HIRAGANA LETTER ARCHAIC YEbENTAIGANA LETTER A-1u2u3uWOsI-1u2u3u4sU-1u2u3u4u5sE-2u3u4u5u6sO-1u2u3sKA-1v",
    "2v3v4v5v6v7v8v9v10w1vKEtI-1v2v3v4v5v6v7v8tU-1v2v3v4v5v6v7tE-1v2v3v4v5v6tO-1v2v3vKIsSA-1v2v3v4v5v6v7v8t",
    "I-1v2v3v4v5v6tU-1v2v3v4v5v6v7v8tE-1v2v3v4v5tO-1v2v3v4v5v6v7sTA-1v2v3v4tI-1v2v3v4v5v6v7tU-1v2v3v4vTOtE-",
    "1v2v3v4v5v6v7v8v9tO-1v2v3v4v5v6vRAsNA-1v2v3v4v5v6v7v8v9tI-1v2v3v4v5v6v7vTEtU-1v2v3tE-1v2v3v4v5v6vKOtO-",
    "1v2v3v4v5sHA-1v2v3v4v5v6v7v8v9v10w1tI-1v2v3v4v5v6v7tU-1v2v3tE-1v2v3v4v5v6v7tO-1v2v3v4v5v6v7v8sMA-1v2v3",
    "v4v5v6v7tI-1v2v3v4v5v6v7tU-1v2v3v4tE-1v2vMAtO-1v2v3v4v5v6sYA-1v2v3v4v5vYOtU-1v2v3v4tO-1v2v3v4v5v6sRA-1",
    "v2v3v4tI-1v2v3v4v5v6v7tU-1v2v3v4v5v6tE-1v2v3v4tO-1v2v3v4v5v6sWA-1v2v3v4v5tI-1v2v3v4v5tE-1v2v3v4tO-1v2v",
    "3v4v5v6v7sN-MU-MO-1zb2bIRAGANA LETTER ARCHAIC WUaKATAKANA LETTER ARCHAIC YIzaEyWU"]),
  (0x1B150, ["aHIRAGANA LETTER SMALL WIxExO"]),
  (0x1B164, ["aKATAKANA LETTER SMALL WIxExOwN"]),
  (0x1BC00, ["aDUPLOYAN LETTER HqXqPqTqFqKqLqBqDqVqGqRqP NqD SqF NqK MqR SqTHqSLOAN DHqDHqKKqSLOAN JqHLqLHqR",
    "HqMqNqJqSqM NqN MqJ MqS JqM WITH DOTqN WITH DOTqJ WITH DOTzbS INSIDE AND ABOVEqS WITH DOTzb BELOWqM Sq",
    "N SqJ SqS SqM N SqN M SqJ M SqS J SqJ S WITH DOTsNt SqS Tt RsPt RqT SsR SqWrHr RqS NsMqK R SqG R SqS K",
    "t RqAqSLOAN OWqOAqOqAOUqIqEqIEqSHORT IqUIqEEqSLOAN EHqROMANIAN IqSLOAN EEqLONG IqYEqUqEUqXWqU NqLONG U",
    "qROMANIAN UqUHqSLOAN UqOOHrWrUqWArOrIrEIrOWqNASAL UwOwIwAqPERNIN ANyMqSLOAN ENwANwONqVOCALIC M?????jAF",
    "FIX LEFT HORIZONTAL SECANTpMID HORIZONTAL SECANTpRIGHT HORIZONTAL SECANTpLOW VERTICAL SECANTpMID VERTI",
    "CAL SECANTpHIGH VERTICAL SECANTpATTACHED SECANTyLEFT-TO-RIGHT SECANTyTANGENTzbILyE HOOKyI HOOKyTANGENT",
    " HOOK???pHIGH ACUTEuTIGHT ACUTEuGRAVEuLONG GRAVEuDOTuCIRCLEuLINEuWAVEuVERTICAL???????pLOW ACUTEtTIGHT ",
    "ACUTEtGRAVEtLONG GRAVEtDOTtCIRCLEtLINEtWAVEtVERTICALtARROW??jSIGN O WITH CROSSjTHICK LETTER SELECTORjD",
    "OUBLE MARKjPUNCTUATION CHINOOK FULL STOPaSHORTHAND FORMAT LETTER OVERLAPrCONTINUING OVERLAPrDOWN STEPr",
    "UP STEP"])]

end CharacterName

end Text

end CodeBehind
