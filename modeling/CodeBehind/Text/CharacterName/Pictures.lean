import CodeBehind.Text.CharacterName.Block

/-!
# Character names: the pictures

The names of the notations, symbols and pictures beyond the first plane.

## Main definitions

* `pictures`: The blocks.
-/

namespace CodeBehind

namespace Text

namespace CharacterName

/-- The blocks of the pictures. -/
def pictures : List Block := [
  (0x1CF00, ["aZNAMENNY COMBINING MARK GORAZDO NIZKO S KRYZHEM ON LEFTyNIZKO S KRYZHEM ON LEFTyTSATA ON LEFT",
    "yGORAZDO NIZKO ON LEFTyNIZKO ON LEFTySREDNE ON LEFTyMALO POVYSHE ON LEFTyPOVYSHE ON LEFTyVYSOKO ON LEF",
    "TyMALO POVYSHE S KHOKHLOM ON LEFTyPOVYSHE S KHOKHLOM ON LEFTyVYSOKO S KHOKHLOM ON LEFTyGORAZDO NIZKO S",
    " KRYZHEM ON RIGHTyNIZKO S KRYZHEM ON RIGHTyTSATA ON RIGHTyGORAZDO NIZKO ON RIGHTyNIZKO ON RIGHTySREDNE",
    " ON RIGHTyMALO POVYSHE ON RIGHTyPOVYSHE ON RIGHTyVYSOKO ON RIGHTyMALO POVYSHE S KHOKHLOM ON RIGHTyPOVY",
    "SHE S KHOKHLOM ON RIGHTyVYSOKO S KHOKHLOM ON RIGHTyTSATA S KRYZHEMyMALO POVYSHE S KRYZHEMySTRANNO MALO",
    " POVYSHEyPOVYSHE S KRYZHEMziTRANNOyVYSOKO S KRYZHEMyMALO POVYSHE STRANNOyGORAZDO VYSOKOyZELOyONyRAVNOy",
    "TIKHAYAyBORZAYAyUDARKAyPODVERTKAyLOMKAyKUPNAYAzaACHKAyZEVOKySKOBAyRAZSEKAyKRYZH ON LEFT??tTONAL RANGE ",
    "MARK MRACHNOzlSVETLOzlTRESVETLOtMARK ZADERZHKAyDEMESTVENNY ZADERZHKAyOTSECHKAyPODCHASHIEzj WITH VERTIC",
    "AL STROKEyCHASHKAzg POLNAYAyOBLACHKOySOROCHYA NOZHKAyTOCHKAyDVOETOCHIEtATTACHING VERTICAL OMETtMARK CU",
    "RVED OMETyKRYZHtLOWER TONAL RANGE INDICATORjPRIZNAK MODIFIER LEVEL-2zh3zbDIRECTION FLIPzbKRYZHzbROG"]),
  (0x1CF50, ["aZNAMENNY NEUME KRYUKu TIKHYpPARAKLITpDVA V CHELNUpKLYUCHpZANOZHEKpSTOPITSAx S OCHKOMpPEREVODK",
    "Ay NEPOSTOYANNAYApSTOPITSA WITH SOROCHYA NOZHKApCHELYUSTKApPALKApZAPYATAYApGOLUBCHIK BORZYzaTIKHYzaMRA",
    "CHNYzaSVETLYzaTRESVETLYpVRAKHIYA PROSTAYAyMRACHNAYAySVETLAYAyTRESVETLAYAyKLYUCHEVAYA PROSTAYAzlMRACHNA",
    "YAzlSVETLAYAzlTRESVETLAYApDOUBLE ZAPYATAYApREVERSED CHELYUSTKApDERBITSApKHAMILOpCHASHKApPODCHASHIEpSKA",
    "MEYTSA MRACHNAYAzaSVETLAYAzaTRESVETLAYAzbIKHAYApDEMESTVENNY KLYUCHpSKAMEYTSA KLYUCHEVAYA SVETLAYAzhNEP",
    "OSTOYANNAYAzhVAYA TIKHAYAzaDVOECHELNAYA PROSTAYAznSVETLAYAznNEPOSTOYANNAYAznKLYUCHEVAYAqLOZHITIEy S ZA",
    "PYATOYzaZAKRYTOEzaS KRYZHEMpKRYZHpROGpFITApKOBYLApZMEYTSApSTATYAv S ZAPYATOYyKRYZHEMyZAPYATOY I KRYZHE",
    "MyKRYZHEM I ZAPYATOYwZAKRYTAYAzg S ZAPYATOYwS ROGOMyDVUMYA ZAPYATYMIyZAPYATOY I PODCHASHIEMpPOLKULIZMY",
    "pSTATYA NEPOSTOYANNAYArRELA PROSTAYAwMRACHNOTIKHAYAwKRYZHEVAYAwPOLUPOVODNAYAyVODNAYAwNEPOSTOYANNAYAwKL",
    "YUCHEPOVODNAYAzeNEPOSTOYANNAYAwTIKHAYA PUTNAYAwDVOECHELNAYAzgOKRYZHEVAYAzhPOVODNAYAzgAYA KLYUCHEVAYAzg",
    "OPOVODNAYA KLYUCHEVAYAwGROMNAYA WITH SINGLE ZAPYATAYAzbOPOVODNAYA WITH SINGLE ZAPYATAYAzbNAYAzbOPOVODN",
    "AYAzl WITH DOUBLE ZAPYATAYAzcKRYZHEVAYAzm POVODNAYApMECHIKv POVODNYwKLYUCHEVOYzePOVODNYzeNEPOSTOYANNYp",
    "STRELA TRYASOGLASNAYAzdPOVODNAYAzdSTRELNAYApOSOKAu SVETLAYAvTRESVETLAYAvKRYUKOVAYA SVETLAYAwLYUCHEVAYA",
    " SVETLAYAziNEPOSTOYANNAYApSTRELA KRYUKOVAYAzh POVODNAYAziGROMNAYA WITH SINGLE ZAPYATAYAzmOPOVODNAYA WI",
    "TH SINGLE ZAPYATAYAzmNAYAzmOPOVODNAYAzw WITH DOUBLE ZAPYATAYAznKRYZHEVAYAzx POVODNAYAziTRYASKApKUFISMA",
    "pOBLAKOpDUDApNEMKApPAUK"]),
  (0x1D000, ["aBYZANTINE MUSICAL SYMBOL PSILIzaDASEIAzaPERISPOMENIzaOXEIA EKFONITIKONzgDIPLIzaVAREIA EKFONIT",
    "IKONzhDIPLIzaKATHISTIzaSYRMATIKIzaPARAKLITIKIzaYPOKRISISzj DIPLIzaKREMASTIzaAPESO EKFONITIKONzaEXO EKF",
    "ONITIKONzaTELEIAzaKENTIMATAzaAPOSTROFOSzk DIPLIzaSYNEVMAzaTHITAzaOLIGON ARCHAIONzaGORGON ARCHAIONzaPSI",
    "LONzaCHAMILONzaVATHYzaISON ARCHAIONzaKENTIMA ARCHAIONzhTA ARCHAIONzaSAXIMATAzaPARICHONzaSTAVROS APODEX",
    "IAzaOXEIAI ARCHAIONzaVAREIAI ARCHAIONzaAPODERMA ARCHAIONzdTHEMAzaKLASMAzaREVMAzaPIASMA ARCHAIONzaTINAG",
    "MAzaANATRICHISMAzaSEISMAzbYNAGMA ARCHAIONziMETA STAVROUzaOYRANISMA ARCHAIONzaTHEMAzaLEMOIzaDYOzaTRIAzb",
    "ESSERAzaKRATIMATAzaAPESO EXO NEOzaFTHORA ARCHAIONzaIMIFTHORAzaTROMIKON ARCHAIONzaKATAVA TROMIKONzaPELA",
    "STONzbSIFISTONzaKONTEVMAzaCHOREVMA ARCHAIONzaRAPISMAzaPARAKALESMA ARCHAIONzfLITIKI ARCHAIONzaICHADINza",
    "NANAzaPETASMAzaKONTEVMA ALLOzaTROMIKON ALLOzaSTRAGGISMATAzaGRONTHISMATAzaISON NEOzaOLIGON NEOzbXEIA NE",
    "OzaPETASTIzaKOUFISMAzaPETASTOKOUFISMAzaKRATIMOKOUFISMAzaPELASTON NEOzaKENTIMATA NEO ANOzh NEO ANOzaYPS",
    "ILIzaAPOSTROFOS NEOzjI SYNDESMOS NEOzaYPORROIzaKRATIMOYPORROONzaELAFRONzaCHAMILIzaMIKRON ISONzaVAREIA ",
    "NEOzaPIASMA NEOzbSIFISTON NEOzaOMALONzaANTIKENOMAzaLYGISMAzaPARAKLITIKI NEOzfALESMA NEOzaETERON PARAKA",
    "LESMAzaKYLISMAzaANTIKENOKYLISMAzaTROMIKON NEOzaEKSTREPTONzaSYNAGMA NEOzcRMAzaCHOREVMA NEOzaEPEGERMAzaS",
    "EISMA NEOzaXIRON KLASMAzaTROMIKOPSIFISTONzaPSIFISTOLYGISMAzaTROMIKOLYGISMAzhPARAKALESMAzaPSIFISTOPARAK",
    "ALESMAzaTROMIKOSYNAGMAzaPSIFISTOSYNAGMAzaGORGOSYNTHETONzaARGOSYNTHETONzaETERON ARGOSYNTHETONzaOYRANISM",
    "A NEOzaTHEMATISMOS ESOznXOzf APLOUNzdS KAI APOTHESzaKATAVASMAzaENDOFONONzaYFEN KATOzfANOzaSTAVROSzaKLA",
    "SMA ANOzaDIPLI ARCHAIONzaKRATIMA ARCHAIONzjLLOziNEOzaAPODERMA NEOzcLIzaDIPLIzaTRIPLIzbETRAPLIzaKORONIS",
    "zaLEIMMA ENOS CHRONOUzhDYO CHRONONzhTRION CHRONONziESSARON CHRONONzhIMISEOS CHRONOUzaGORGON NEO ANOzhP",
    "ARESTIGMENON ARISTERAzvDEXIAzaDIGORGONzi PARESTIGMENON ARISTERA KATOzzhANOzxDEXIAzaTRIGORGONzaARGONzaI",
    "MIDIARGONzaDIARGONzaAGOGI POLI ARGIzgARGOTERIzjIzgMETRIAziSIzgGORGIzkOTERIzgPOLI GORGIzaMARTYRIA PROTO",
    "S ICHOSzjALLI PROTOS ICHOSzjDEYTEROS ICHOSzjALLI DEYTEROS ICHOSzjTRITOS ICHOSzmFONIASzkETARTOS ICHOSzs",
    "LEGETOS ICHOSzjLEGETOS ICHOSzjPLAGIOS ICHOSzaISAKIA TELOUS ICHIMATOSzaAPOSTROFOI TELOUS ICHIMATOSzaFAN",
    "EROSIS TETRAFONIASzkMONOFONIASzkDIFONIASzaMARTYRIA VARYS ICHOSzjPROTOVARYS ICHOSzkLAGIOS TETARTOS ICHO",
    "SzaGORTHMIKON N APLOUNznDIPLOUNzaENARXIS KAI FTHORA VOUzaIMIFONONzeTHORONzaFTHORA ARCHAION DEYTEROU IC",
    "HOUzhDIATONIKI PAzrNANAzhNAOS ICHOSzhDIATONIKI DIzhSKLIRON DIATONON DIzhDIATONIKI KEzrZOzrNI KATOzuANO",
    "zhMALAKON CHROMA DIFONIASzwMONOFONIASzbHTORA SKLIRON CHROMA VASISzbTHORA SKLIRON CHROMA SYNAFIzhNENANO",
    "zaCHROA ZYGOSzgKLITONzgSPATHIzaFTHORA I YFESIS TETARTIMORIONzhENARMONIOS ANTIFONIAzaYFESIS TRITIMORION",
    "zaDIESIS TRITIMORIONziETARTIMORIONzhAPLI DYO DODEKATAzhMONOGRAMMOS TESSERA DODEKATAzhDIGRAMMOS EX DODE",
    "KATAzhTRIGRAMMOS OKTO DODEKATAzaYFESIS APLI DYO DODEKATAzhMONOGRAMMOS TESSERA DODEKATAzhDIGRAMMOS EX D",
    "ODEKATAzhTRIGRAMMOS OKTO DODEKATAzaGENIKI DIESISzhYFESISzaDIASTOLI APLI MIKRIzpEGALIzjDIPLIzjTHESEOSza",
    "SIMANSIS THESEOSzq DISIMOUzrTRISIMOUzsETRASIMOUzjARSEOSzp DISIMOUzqTRISIMOUzrETRASIMOUzaDIGRAMMA GGzcF",
    "TOGGOS OUzaSTIGMAzaARKTIKO PAziVOUziGAziDIziKEziZOziNIzaKENTIMATA NEO MESOzh NEO MESOzhTA NEO KATOzh N",
    "EO KATOzbLASMA KATOzaGORGON NEO KATO"]),
  (0x1D100, ["aMUSICAL SYMBOL SINGLE BARLINEpDOUBLE BARLINEpFINAL BARLINEpREVERSE FINAL BARLINEpDASHED BARLI",
    "NEpSHORT BARLINEpLEFT REPEAT SIGNpRIGHT REPEAT SIGNqEPEAT DOTSpDAL SEGNOr CAPOpSEGNOpCODApREPEATED FIG",
    "URE-1zg2zg3pFERMATAw BELOWpBREATH MARKpCAESURApBRACEtKETpONE-LINE STAFFpTWO-LINE STAFFqHREE-LINE STAFF",
    "pFOUR-LINE STAFFqIVE-LINE STAFFpSIX-LINE STAFFtSTRING FRETBOARDpFOUR-STRING FRETBOARDpG CLEFv OTTAVA A",
    "LTAzeBASSApC CLEFpF CLEFv OTTAVA ALTAzeBASSApDRUM CLEF-1za2??pMULTIPLE MEASURE RESTpDOUBLE SHARPwFLATp",
    "FLAT UPuDOWNpNATURAL UPxDOWNpSHARP UPvDOWNpQUARTER TONE SHARPzdFLATpCOMMON TIMEqUT TIMEpOTTAVA ALTAwBA",
    "SSApQUINDICESIMA ALTAzdBASSApMULTI RESTpWHOLE RESTpHALF RESTpQUARTER RESTpEIGHTH RESTpSIXTEENTH RESTpT",
    "HIRTY-SECOND RESTpSIXTY-FOURTH RESTpONE HUNDRED TWENTY-EIGHTH RESTpX NOTEHEADpPLUS NOTEHEADpCIRCLE X N",
    "OTEHEADpSQUARE NOTEHEAD WHITEzgBLACKpTRIANGLE NOTEHEAD UP WHITEzlBLACKziLEFT WHITEznBLACKziRIGHT WHITE",
    "zoBLACKziDOWN WHITEznBLACKziUP RIGHT WHITEzrBLACKpMOON NOTEHEAD WHITEzeBLACKpTRIANGLE-ROUND NOTEHEAD D",
    "OWN WHITEztBLACKpPARENTHESIS NOTEHEADpVOID NOTEHEADpNOTEHEAD BLACKqULL NOTEHEADpCLUSTER NOTEHEAD WHITE",
    "zhBLACKpBREVEpWHOLE NOTEpHALF NOTEpQUARTER NOTEpEIGHTH NOTEpSIXTEENTH NOTEpTHIRTY-SECOND NOTEpSIXTY-FO",
    "URTH NOTEpONE HUNDRED TWENTY-EIGHTH NOTEpCOMBINING STEMzbPRECHGESANG STEMzaTREMOLO-1zi2zi3pFINGERED TR",
    "EMOLO-1zh2zh3pCOMBINING AUGMENTATION DOTzaFLAG-1zf2zf3zf4zf5pBEGIN BEAMpEND BEAMpBEGIN TIEpEND TIEpBEG",
    "IN SLURpEND SLURpBEGIN PHRASEpEND PHRASEpCOMBINING ACCENTzaSTACCATOzaTENUTOzaSTACCATISSIMOzaMARCATOzh-",
    "STACCATOzaACCENT-STACCATOzaLOUREpARPEGGIATO UPzbDOWNpCOMBINING DOITzaRIPzaFLIPzaSMEARzaBENDzaDOUBLE TO",
    "NGUEzaTRIPLE TONGUEpRINFORZANDOpSUBITOpZpPIANOpMEZZOpFORTEpCRESCENDOpDECRESCENDOpGRACE NOTE SLASHzbNO ",
    "SLASHpTRqURNpINVERTED TURNpTURN SLASHuUPpORNAMENT STROKE-1zg2zg3zg4zg5zg6zg7zg8zg9zg10zh1pHAUPTSTIMMEp",
    "NEBENSTIMMEpEND OF STIMMEpDEGREE SLASHpCOMBINING DOWN BOWzaUP BOWzaHARMONICzaSNAP PIZZICATOpPEDAL MARK",
    "vUP MARKpHALF PEDAL MARKpGLISSANDO UPzaDOWNpWITH FINGERNAILSpDAMPt ALLpMAXIMApLONGApBREVISpSEMIBREVIS ",
    "WHITEzbBLACKpMINIMAv BLACKpSEMIMINIMA WHITEzbBLACKpFUSA WHITEuBLACKpLONGA PERFECTA RESTvIMPERFECTA RES",
    "TpBREVIS RESTpSEMIBREVIS RESTpMINIMA RESTpSEMIMINIMA RESTpTEMPUS PERFECTUM CUM PROLATIONE PERFECTAzwIM",
    "PERFECTAzwPERFECTA DIMINUTION-1wIMPERFECTUM CUM PROLATIONE PERFECTAzyIMPERFECTAzzj DIMINUTION-1zzv2zzv",
    "3pCROIXpGREGORIAN C CLEFzaF CLEFpSQUARE BpVIRGApPODATUSpCLIVISpSCANDICUSpCLIMACUSpTORCULUSpPORRECTUSy ",
    "FLEXUSpSCANDICUS FLEXUSpTORCULUS RESUPINUSpPES SUBPUNCTISpKIEVAN C CLEFwEND OF PIECEwFINAL NOTEwRECITA",
    "TIVE MARKwWHOLE NOTEwHALF NOTEwQUARTER NOTE STEM DOWNzpUPwEIGHTH NOTE STEM DOWNzoUPwFLAT SIGNpSORIpKOR",
    "ON"]),
  (0x1D200, ["aGREEK VOCAL NOTATION SYMBOL-1zd2zd3zd4zd5zd6zd7zd8zd9zd10ze1ze2ze3ze4ze5ze6ze7ze8ze9zd20ze1ze",
    "2ze3ze4zd50ze1ze2ze3ze4gINSTRUMENTAL NOTATION SYMBOL-1zk2zk4zk5zk7zk8zk11zl2zl3zl4zl7zl8zl9zk23zl4zl5z",
    "l6zl7zl9zk30zl2zl6zl7zl8zl9zk40zl2zl3zl5zl7zl8zl9zk50zl1zl2zl3zl4aCOMBINING GREEK MUSICAL TRISEMEzaETR",
    "ASEMEyPENTASEMEaGREEK MUSICAL LEIMMA"]),
  (0x1D2E0, ["aMAYAN NUMERAL ZEROoONEoTWOpHREEoFOURpIVEoSIXpEVENoEIGHToNINEoTENoELEVENoTWELVEpHIRTEENoFOURTE",
    "ENpIFTEENoSIXTEENpEVENTEENoEIGHTEENoNINETEEN"]),
  (0x1D300, ["aMONOGRAM FOR EARTHaDIGRAM FOR HEAVENLY EARTHmUMAN EARTHlEARTHLY HEAVENuUMANpHaTETRAGRAM FOR C",
    "ENTREoFULL CIRCLEoMIREDoBARRIERoKEEPING SMALLoCONTRARIETYoASCENToOPPOSITIONoBRANCHING OUToDEFECTIVENES",
    "S OR DISTORTIONpIVERGENCEoYOUTHFULNESSoINCREASEoPENETRATIONoREACHoCONTACToHOLDING BACKoWAITINGoFOLLOWI",
    "NGoADVANCEoRELEASEqSISTANCEoEASEoJOYoCONTENTIONoENDEAVOURoDUTIESoCHANGEoDECISIVENESSoBOLD RESOLUTIONoP",
    "ACKINGoLEGIONoCLOSENESSoKINSHIPoGATHERINGoSTRENGTHoPURITYoFULLNESSoRESIDENCEoLAW OR MODELoRESPONSEoGOI",
    "NG TO MEEToENCOUNTERSoSTOVEoGREATNESSoENLARGEMENToPATTERNoRITUALoFLIGHToVASTNESS OR WASTINGoCONSTANCYo",
    "MEASUREoETERNITYoUNITYoDIMINISHMENToCLOSED MOUTHoGUARDEDNESSpATHERING INoMASSINGoACCUMULATIONoEMBELLIS",
    "HMENToDOUBToWATCHoSINKINGoINNERoDEPARTUREpARKENINGpIMMINGoEXHAUSTIONoSEVERANCEpTOPPAGEoHARDNESSoCOMPLE",
    "TIONpLOSUREoFAILUREoAGGRAVATIONoCOMPLIANCEoON THE VERGEoDIFFICULTIESoLABOURINGoFOSTERING"]),
  (0x1D360, ["aCOUNTING ROD UNIT DIGIT ONEyTWOzaHREEyFOURzaIVEySIXzaEVENyEIGHTyNINEnTENS DIGIT ONEyTWOzaHREE",
    "yFOURzaIVEySIXzaEVENyEIGHTyNINEaIDEOGRAPHIC TALLY MARK ONExTWOyHREExFOURyIVEaTALLY MARK ONElFIVE"]),
  (0x1D400, ["aMATHEMATICAL BOLD CAPITAL AzbBzbCzbDzbEzbFzbGzbHzbIzbJzbKzbLzbMzbNzbOzbPzbQzbRzbSzbTzbUzbVzbW",
    "zbXzbYzbZsSMALL AyByCyDyEyFyGyHyIyJyKyLyMyNyOyPyQyRySyTyUyVyWyXyYyZnITALIC CAPITAL AzdBzdCzdDzdEzdFzdG",
    "zdHzdIzdJzdKzdLzdMzdNzdOzdPzdQzdRzdSzdTzdUzdVzdWzdXzdYzdZuSMALL AzbBzbCzbDzbEzbFzbG?zbIzbJzbKzbLzbMzbN",
    "zbOzbPzbQzbRzbSzbTzbUzbVzbWzbXzbYzbZnBOLD ITALIC CAPITAL AziBziCziDziEziFziGziHziIziJziKziLziMziNziOzi",
    "PziQziRziSziTziUziVziWziXziYziZzaSMALL AzgBzgCzgDzgEzgFzgGzgHzgIzgJzgKzgLzgMzgNzgOzgPzgQzgRzgSzgTzgUzg",
    "VzgWzgXzgYzgZnSCRIPT CAPITAL A?zdCzdD??zdG??zdJzdK??zdNzdOzdPzdQ?zdSzdTzdUzdVzdWzdXzdYzdZuSMALL AzbBzb",
    "CzbD?zbF?zbHzbIzbJzbKzbLzbMzbN?zbPzbQzbRzbSzbTzbUzbVzbWzbXzbYzbZnBOLD SCRIPT CAPITAL AziBziCziDziEziFz",
    "iGziHziIziJziKziLziMziNziOziPziQziRziSziTziUziVziWziXziYziZzaSMALL AzgBzgCzgDzgEzgFzgGzgHzgIzgJzgKzgLz",
    "gMzgNzgOzgPzgQzgRzgSzgTzgUzgVzgWzgXzgYzgZnFRAKTUR CAPITAL AzeB?zeDzeEzeFzeG??zeJzeKzeLzeMzeNzeOzePzeQ?",
    "zeSzeTzeUzeVzeWzeXzeY?vSMALL AzcBzcCzcDzcEzcFzcGzcHzcIzcJzcKzcLzcMzcNzcOzcPzcQzcRzcSzcTzcUzcVzcWzcXzcY",
    "zcZnDOUBLE-STRUCK CAPITAL AzkB?zkDzkEzkFzkG?zkIzkJzkKzkLzkM?zkO???zkSzkTzkUzkVzkWzkXzkY?zcSMALL AziBzi",
    "CziDziEziFziGziHziIziJziKziLziMziNziOziPziQziRziSziTziUziVziWziXziYziZnBOLD FRAKTUR CAPITAL AzjBzjCzjD",
    "zjEzjFzjGzjHzjIzjJzjKzjLzjMzjNzjOzjPzjQzjRzjSzjTzjUzjVzjWzjXzjYzjZzbSMALL AzhBzhCzhDzhEzhFzhGzhHzhIzhJ",
    "zhKzhLzhMzhNzhOzhPzhQzhRzhSzhTzhUzhVzhWzhXzhYzhZnSANS-SERIF CAPITAL AzhBzhCzhDzhEzhFzhGzhHzhIzhJzhKzhL",
    "zhMzhNzhOzhPzhQzhRzhSzhTzhUzhVzhWzhXzhYzhZySMALL AzfBzfCzfDzfEzfFzfGzfHzfIzfJzfKzfLzfMzfNzfOzfPzfQzfRz",
    "fSzfTzfUzfVzfWzfXzfYzfZyBOLD CAPITAL AzmBzmCzmDzmEzmFzmGzmHzmIzmJzmKzmLzmMzmNzmOzmPzmQzmRzmSzmTzmUzmVz",
    "mWzmXzmYzmZzeSMALL AzkBzkCzkDzkEzkFzkGzkHzkIzkJzkKzkLzkMzkNzkOzkPzkQzkRzkSzkTzkUzkVzkWzkXzkYzkZyITALIC",
    " CAPITAL AzoBzoCzoDzoEzoFzoGzoHzoIzoJzoKzoLzoMzoNzoOzoPzoQzoRzoSzoTzoUzoVzoWzoXzoYzoZzgSMALL AzmBzmCzm",
    "DzmEzmFzmGzmHzmIzmJzmKzmLzmMzmNzmOzmPzmQzmRzmSzmTzmUzmVzmWzmXzmYzmZyBOLD ITALIC CAPITAL AztBztCztDztEz",
    "tFztGztHztIztJztKztLztMztNztOztPztQztRztSztTztUztVztWztXztYztZzlSMALL AzrBzrCzrDzrEzrFzrGzrHzrIzrJzrKz",
    "rLzrMzrNzrOzrPzrQzrRzrSzrTzrUzrVzrWzrXzrYzrZnMONOSPACE CAPITAL AzgBzgCzgDzgEzgFzgGzgHzgIzgJzgKzgLzgMzg",
    "NzgOzgPzgQzgRzgSzgTzgUzgVzgWzgXzgYzgZxSMALL AzeBzeCzeDzeEzeFzeGzeHzeIzeJzeKzeLzeMzeNzeOzePzeQzeRzeSzeT",
    "zeUzeVzeWzeXzeYzeZnITALIC SMALL DOTLESS IzjJ??nBOLD CAPITAL ALPHAzbBETAzbGAMMAzbDELTAzbEPSILONzbZETAzb",
    "ETAzbTHETAzbIOTAzbKAPPAzbLAMDAzbMUzbNUzbXIzbOMICRONzbPIzbRHOzbTHETA SYMBOLzbSIGMAzbTAUzbUPSILONzbPHIzb",
    "CHIzbPSIzbOMEGAsNABLAsSMALL ALPHAyBETAyGAMMAyDELTAyEPSILONyZETAyETAyTHETAyIOTAyKAPPAyLAMDAyMUyNUyXIyOM",
    "ICRONyPIyRHOyFINAL SIGMAySIGMAyTAUyUPSILONyPHIyCHIyPSIyOMEGAsPARTIAL DIFFERENTIALsEPSILON SYMBOLsTHETA",
    " SYMBOLsKAPPA SYMBOLsPHI SYMBOLsRHO SYMBOLsPI SYMBOLnITALIC CAPITAL ALPHAzdBETAzdGAMMAzdDELTAzdEPSILON",
    "zdZETAzdETAzdTHETAzdIOTAzdKAPPAzdLAMDAzdMUzdNUzdXIzdOMICRONzdPIzdRHOzdTHETA SYMBOLzdSIGMAzdTAUzdUPSILO",
    "NzdPHIzdCHIzdPSIzdOMEGAuNABLAuSMALL ALPHAzbBETAzbGAMMAzbDELTAzbEPSILONzbZETAzbETAzbTHETAzbIOTAzbKAPPAz",
    "bLAMDAzbMUzbNUzbXIzbOMICRONzbPIzbRHOzbFINAL SIGMAzbSIGMAzbTAUzbUPSILONzbPHIzbCHIzbPSIzbOMEGAuPARTIAL D",
    "IFFERENTIALuEPSILON SYMBOLuTHETA SYMBOLuKAPPA SYMBOLuPHI SYMBOLuRHO SYMBOLuPI SYMBOLnBOLD ITALIC CAPIT",
    "AL ALPHAziBETAziGAMMAziDELTAziEPSILONziZETAziETAziTHETAziIOTAziKAPPAziLAMDAziMUziNUziXIziOMICRONziPIzi",
    "RHOziTHETA SYMBOLziSIGMAziTAUziUPSILONziPHIziCHIziPSIziOMEGAzaNABLAzaSMALL ALPHAzgBETAzgGAMMAzgDELTAzg",
    "EPSILONzgZETAzgETAzgTHETAzgIOTAzgKAPPAzgLAMDAzgMUzgNUzgXIzgOMICRONzgPIzgRHOzgFINAL SIGMAzgSIGMAzgTAUzg",
    "UPSILONzgPHIzgCHIzgPSIzgOMEGAzaPARTIAL DIFFERENTIALzaEPSILON SYMBOLzaTHETA SYMBOLzaKAPPA SYMBOLzaPHI S",
    "YMBOLzaRHO SYMBOLzaPI SYMBOLnSANS-SERIF BOLD CAPITAL ALPHAzmBETAzmGAMMAzmDELTAzmEPSILONzmZETAzmETAzmTH",
    "ETAzmIOTAzmKAPPAzmLAMDAzmMUzmNUzmXIzmOMICRONzmPIzmRHOzmTHETA SYMBOLzmSIGMAzmTAUzmUPSILONzmPHIzmCHIzmPS",
    "IzmOMEGAzeNABLAzeSMALL ALPHAzkBETAzkGAMMAzkDELTAzkEPSILONzkZETAzkETAzkTHETAzkIOTAzkKAPPAzkLAMDAzkMUzkN",
    "UzkXIzkOMICRONzkPIzkRHOzkFINAL SIGMAzkSIGMAzkTAUzkUPSILONzkPHIzkCHIzkPSIzkOMEGAzePARTIAL DIFFERENTIALz",
    "eEPSILON SYMBOLzeTHETA SYMBOLzeKAPPA SYMBOLzePHI SYMBOLzeRHO SYMBOLzePI SYMBOLzeITALIC CAPITAL ALPHAzt",
    "BETAztGAMMAztDELTAztEPSILONztZETAztETAztTHETAztIOTAztKAPPAztLAMDAztMUztNUztXIztOMICRONztPIztRHOztTHETA",
    " SYMBOLztSIGMAztTAUztUPSILONztPHIztCHIztPSIztOMEGAzlNABLAzlSMALL ALPHAzrBETAzrGAMMAzrDELTAzrEPSILONzrZ",
    "ETAzrETAzrTHETAzrIOTAzrKAPPAzrLAMDAzrMUzrNUzrXIzrOMICRONzrPIzrRHOzrFINAL SIGMAzrSIGMAzrTAUzrUPSILONzrP",
    "HIzrCHIzrPSIzrOMEGAzlPARTIAL DIFFERENTIALzlEPSILON SYMBOLzlTHETA SYMBOLzlKAPPA SYMBOLzlPHI SYMBOLzlRHO",
    " SYMBOLzlPI SYMBOLnBOLD CAPITAL DIGAMMAsSMALL DIGAMMA??sDIGIT ZEROyONEyTWOzaHREEyFOURzaIVEySIXzaEVENyE",
    "IGHTyNINEnDOUBLE-STRUCK DIGIT ZEROziONEziTWOzjHREEziFOURzjIVEziSIXzjEVENziEIGHTziNINEnSANS-SERIF DIGIT",
    " ZEROzfONEzfTWOzgHREEzfFOURzgIVEzfSIXzgEVENzfEIGHTzfNINEyBOLD DIGIT ZEROzkONEzkTWOzlHREEzkFOURzlIVEzkS",
    "IXzlEVENzkEIGHTzkNINEnMONOSPACE DIGIT ZEROzeONEzeTWOzfHREEzeFOURzfIVEzeSIXzfEVENzeEIGHTzeNINEaSIGNWRIT",
    "ING HAND-FIST INDEXrCIRCLE INDEXsUP INDEXrOVAL INDEXrHINGE INDEXrANGLE INDEXrFIST INDEX BENTrCIRCLE IN",
    "DEX BENTrFIST THUMB UNDER INDEX BENTwINDEX RAISED KNUCKLEzdCUPPEDzdHINGEDzj LOWrCIRCLE INDEX HINGErFIS",
    "T INDEX MIDDLErCIRCLE INDEX MIDDLErFIST INDEX MIDDLE BENTzkRAISED KNUCKLESzkHINGEDzdUP MIDDLE HINGEDzd",
    "HINGED MIDDLE UPzdMIDDLE CONJOINEDzt INDEX BENTzuMIDDLE BENTzuCUPPEDzuHINGEDzlROSSEDrCIRCLE INDEX MIDD",
    "LE CROSSEDrFIST MIDDLE BENT OVER INDEXwINDEX BENT OVER MIDDLEzdMIDDLE THUMBrCIRCLE INDEX MIDDLE THUMBr",
    "FIST INDEX MIDDLE STRAIGHT THUMB BENTzkBENT THUMB STRAIGHTzkTHUMB BENTzkHINGED SPREAD THUMB SIDEzdUP M",
    "IDDLE HINGED THUMB SIDEzzbCONJOINEDzdHINGED MIDDLE UP THUMB SIDEzdMIDDLE UP SPREAD THUMB FORWARDzkTHUM",
    "B CUPPEDzrIRCLEDzqHOOKEDzrINGEDwTHUMB BETWEEN INDEX MIDDLE STRAIGHTwINDEX MIDDLE CONJOINED THUMB SIDEz",
    "zf CONJOINEDzzgBENTwMIDDLE THUMB HOOKED INDEX UPwINDEX THUMB HOOKED MIDDLE UPzdMIDDLE CONJOINED HINGED",
    " THUMB SIDEzlROSSED THUMB SIDEzlONJOINED THUMB FORWARDzuCUPPED THUMB FORWARDwMIDDLE THUMB CUPPED INDEX",
    " UPwINDEX THUMB CUPPED MIDDLE UPwMIDDLE THUMB CIRCLED INDEX UPzyHINGEDwINDEX THUMB ANGLED OUT MIDDLE U",
    "PzqIN MIDDLE UPzjCIRCLED MIDDLE UPzdMIDDLE THUMB CONJOINED HINGEDzqANGLED OUTzvDwMIDDLE THUMB ANGLED O",
    "UT INDEX UPzzcCROSSEDzrINDEX UPwINDEX THUMB HOOKED MIDDLE HINGEDsLAT FOUR FINGERSzj BENTzkHINGEDzkCONJ",
    "OINEDzt SPLITrCLAW FOUR FINGERS CONJOINEDrFIST FOUR FINGERS CONJOINED BENTrHINGE FOUR FINGERS CONJOINE",
    "DrFLAT FIVE FINGERS SPREADwHEEL FIVE FINGERS SPREADwFIVE FINGERS SPREAD FOUR BENTwHEEL FIVE FINGERS SP",
    "READ FOUR BENTwFIVE FINGERS SPREAD BENTwHEEL FIVE FINGERS SPREAD BENTwFIVE FINGERS SPREAD THUMB FORWAR",
    "DrCUP FIVE FINGERS SPREADzp OPENrHINGE FIVE FINGERS SPREAD OPENrOVAL FIVE FINGERS SPREADrFLAT FIVE FIN",
    "GERS SPREAD HINGEDzx THUMB SIDEzyNO THUMBuTv BETWEEN PALM FACINGSwHEELwTHUMB SIDEwHEEL THUMB SIDEwTHUM",
    "B BENTzdFORWARDwSPLIT INDEX THUMB SIDEzdCENTREzj THUMB SIDEzu BENTzdLITTLErCLAWv THUMB SIDEwNO THUMBwT",
    "HUMB FORWARDrHOOK CURLICUEuKrCUP OPENtPu OPEN THUMB SIDEvTHUMB SIDEvOPEN NO THUMBvNO THUMBvOPEN THUMB ",
    "FORWARDvTHUMB FORWARDtRLICUE OPENyEsIRCLErOVALv THUMB SIDEwNO THUMBwTHUMB FORWARDrHINGE OPENzc THUMB F",
    "ORWARDvEw SMALLxOPEN THUMB SIDExTHUMB SIDExOPEN NO THUMBxNO THUMBxTHUMB SIDE TOUCHING INDEXzeBETWEEN M",
    "IDDLE RINGrANGLErFIST INDEX MIDDLE RINGrCIRCLE INDEX MIDDLE RINGrHINGE INDEX MIDDLE RINGrANGLE INDEX M",
    "IDDLE RINGrHINGE LITTLErFIST INDEX MIDDLE RING BENTzpCONJOINEDrHINGE INDEX MIDDLE RING CONJOINEDrFIST ",
    "LITTLE DOWNzi RIPPLE STRAIGHTzqCURVEDzjOTHERS CIRCLEDzeUPwTHUMB UNDER LITTLE UPrCIRCLE LITTLE UPrOVAL ",
    "LITTLE UPrANGLE LITTLE UPrFIST LITTLE RAISED KNUCKLEzeBENTzeTOUCHES THUMBzfHUMBrHINGE LITTLE THUMBrFIS",
    "T LITTLE INDEX THUMBrHINGE LITTLE INDEX THUMBrANGLE LITTLE INDEX THUMB INDEX THUMB OUTzzcBrFIST LITTLE",
    " INDEXrCIRCLE LITTLE INDEXrHINGE LITTLE INDEXrANGLE LITTLE INDEXrFIST INDEX MIDDLE LITTLErCIRCLE INDEX",
    " MIDDLE LITTLErHINGE INDEX MIDDLE LITTLExRINGrANGLE INDEX MIDDLE LITTLErFIST INDEX MIDDLE CROSS LITTLE",
    "rCIRCLE INDEX MIDDLE CROSS LITTLErFIST RING DOWNrHINGE RING DOWN INDEX THUMB HOOK MIDDLErANGLE RING DO",
    "WN MIDDLE THUMB INDEX CROSSrFIST RING UPzcRAISED KNUCKLEzcLITTLErCIRCLE RING LITTLErOVAL RING LITTLErA",
    "NGLE RING LITTLErFIST RING MIDDLEzi CONJOINEDzjRAISED KNUCKLESzcINDEXzcTHUMBrHOOK RING THUMBrFIST INDE",
    "X RING LITTLErCIRCLE INDEX RING LITTLEsURLICUE INDEX RING LITTLE ONrHOOK INDEX RING LITTLE OUTzpINzpUN",
    "DERrCUP INDEX RING LITTLErHINGE INDEX RING LITTLErANGLE INDEX RING LITTLE OUTzoErFIST MIDDLE DOWNrHING",
    "E MIDDLErFIST MIDDLE UPrCIRCLE MIDDLE UPrFIST MIDDLE RAISED KNUCKLEzeUP THUMB SIDErHOOK MIDDLE THUMBrF",
    "IST MIDDLE THUMB LITTLEzeLITTLEzeRING LITTLErCIRCLE MIDDLE RING LITTLEsURLICUE MIDDLE RING LITTLE ONtP",
    " MIDDLE RING LITTLErHINGE MIDDLE RING LITTLErANGLE MIDDLE RING LITTLE OUTzrINzpErCIRCLE MIDDLE RING LI",
    "TTLE BENTsLAW MIDDLE RING LITTLE CONJOINEDzza SIDErHOOK MIDDLE RING LITTLE CONJOINED OUTzzbINzyDsINGE ",
    "INDEX HINGEDrFIST INDEX THUMB SIDErHINGE INDEX THUMB SIDErFIST INDEX THUMB SIDE THUMB DIAGONALzuCONJOI",
    "NEDzuBENTzoINDEX BENTzoBOTH BENTzoINDEX HINGEzjFORWARD INDEX STRAIGHTzxBENTzjHOOKzjCURLICUEzmVE THUMB ",
    "INSIDErCLAW INDEX THUMB CURVE THUMB INSIDErFIST INDEX THUMB CURVE THUMB UNDERzkIRCLErCUP INDEX THUMBzh",
    " OPENrHINGE INDEX THUMB OPENzkLARGEziBzj SMALLrANGLE INDEX THUMB OUTzkINziBrFIST THUMBzc HEELzdSIDE DI",
    "AGONALziCONJOINEDziBENTzdFORWARDzdBETWEEN INDEX MIDDLEzlMIDDLE RINGzlRING LITTLEzdUNDER TWO FINGERSzdO",
    "VER TWO FINGERSzdUNDER THREE FINGERSzjFOUR FINGERSzdOVER FOUR RAISED KNUCKLESuTv HEELmTOUCH SINGLEsMUL",
    "TIPLEsBETWEENmGRASP SINGLEsMULTIPLEsBETWEENmSTRIKE SINGLEtMULTIPLEtBETWEENmBRUSH SINGLEsMULTIPLEsBETWE",
    "ENmRUB SINGLEqMULTIPLEqBETWEENmSURFACE SYMBOLSuBETWEENnQUEEZE LARGE SINGLEuSMALL SINGLEuLARGE MULTIPLE",
    "uSMALL MULTIPLEvEQUENTIALmFLICK LARGE SINGLEsSMALL SINGLEsLARGE MULTIPLEsSMALL MULTIPLEtEQUENTIALmSQUE",
    "EZE FLICK ALTERNATINGmMOVEMENT-HINGE UP DOWN LARGEzkSMALLzfSEQUENTIALzcDOWN SEQUENTIALzcUP DOWN ALTERN",
    "ATING LARGEzwSMALLzcSIDE TO SIDE SCISSORSvWALLPLANE FINGER CONTACTvFLOORPLANE FINGER CONTACTvWALLPLANE",
    " SINGLE STRAIGHT SMALLzwMEDIUMzwLARGEzzcSTznWRIST FLEXzgDOUBLE STRAIGHTznWRIST FLEXznALTERNATINGzy WRI",
    "ST FLEXzgCROSSzgTRIPLE STRAIGHT MOVEMENTznWRIST FLEXznALTERNATINGzy WRIST FLEXzgBEND SMALLzlMEDIUMzlLA",
    "RGEzgCORNER SMALLznMEDIUMznLARGEznROTATIONzhHECK SMALLzmMEDIUMzmLARGEzgBOX SMALLzkMEDIUMzkLARGEzgZIGZA",
    "G SMALLznMEDIUMznLARGEzgPEAKS SMALLzmMEDIUMzmLARGEmTRAVEL-WALLPLANE ROTATION-WALLPLANE SINGLEzxDOUBLEz",
    "xALTERNATINGznFLOORPLANE SINGLEzyDOUBLEzyALTERNATINGzeSHAKINGzeARM SPIRAL SINGLEzpDOUBLEzpTRIPLEmMOVEM",
    "ENT-DIAGONAL AWAY SMALLzkMEDIUMzkLARGEzpSTzfTOWARDS SMALLznMEDIUMznLARGEzsSTzfBETWEEN AWAY SMALLzsMEDI",
    "UMzsLARGEzxSTznTOWARDS SMALLzvMEDIUMzvLARGEzzbSTvFLOORPLANE SINGLE STRAIGHT SMALLzxMEDIUMzxLARGEzzdSTz",
    "oWRIST FLEXzhDOUBLE STRAIGHTzoWRIST FLEXzoALTERNATINGzza WRIST FLEXzhCROSSzhTRIPLE STRAIGHT MOVEMENTzo",
    "WRIST FLEXzoALTERNATING MOVEMENTzzbWRIST FLEXzhBENDzhCORNER SMALLzoMEDIUMzoLARGEziHECKzhBOX SMALLzlMED",
    "IUMzlLARGEzhZIGZAG SMALLzoMEDIUMzoLARGEzhPEAKS SMALLznMEDIUMznLARGEmTRAVEL-FLOORPLANE ROTATION-FLOORPL",
    "ANE SINGLEzzaDOUBLEzzaALTERNATINGzoWALLPLANE SINGLEzyDOUBLEzyALTERNATINGzfSHAKINGmMOVEMENT-WALLPLANE C",
    "URVE QUARTER SMALLzuMEDIUMzuLARGEzzaSTzmHALF-CIRCLE SMALLzyMEDIUMzyLARGEzzeSTzmTHREE-QUARTER CIRCLE SM",
    "ALLzziMEDIUMzgHUMP SMALLzlMEDIUMzlLARGEzgLOOP SMALLzlMEDIUMzlLARGEzlSMALL DOUBLEzgWAVE CURVE DOUBLE SM",
    "ALLzyMEDIUMzyLARGEzrTRIPLE SMALLzyMEDIUMzyLARGEzgCURVE THEN STRAIGHTzlD CROSS SMALLztMEDIUMmROTATION-W",
    "ALLPLANE SINGLEzgDOUBLEzgALTERNATEmMOVEMENT-WALLPLANE SHAKINGzgCURVE HITTING FRONT WALLzgHUMP HITTING ",
    "FRONT WALLzgLOOP HITTING FRONT WALLzgWAVE HITTING FRONT WALLmROTATION-WALLPLANE SINGLE HITTING FRONT W",
    "ALLzgDOUBLE HITTING FRONT WALLzgALTERNATING HITTING FRONT WALLmMOVEMENT-WALLPLANE CURVE HITTING CHESTz",
    "gHUMP HITTING CHESTzgLOOP HITTING CHESTzgWAVE HITTING CHESTmROTATION-WALLPLANE SINGLE HITTING CHESTzgD",
    "OUBLE HITTING CHESTzgALTERNATING HITTING CHESTmMOVEMENT-WALLPLANE WAVE DIAGONAL PATH SMALLzzaMEDIUMzza",
    "LARGEvFLOORPLANE CURVE HITTING CEILING SMALLzzeLARGEzhHUMP HITTING CEILING SMALL DOUBLEzzdLARGE DOUBLE",
    "zzdSMALL TRIPLEzzdLARGE TRIPLEzhLOOP HITTING CEILING SMALL SINGLEzzdLARGE SINGLEzzdSMALL DOUBLEzzdLARG",
    "E DOUBLEzhWAVE HITTING CEILING SMALLzzdLARGEmROTATION-FLOORPLANE SINGLE HITTING CEILINGzhDOUBLE HITTIN",
    "G CEILINGzhALTERNATING HITTING CEILINGmMOVEMENT-FLOORPLANE CURVE HITTING FLOOR SMALLzzcLARGEzhHUMP HIT",
    "TING FLOOR SMALL DOUBLEzzbLARGE DOUBLEzzbTRIPLE SMALL TRIPLEzziLARGE TRIPLEzhLOOP HITTING FLOOR SMALL ",
    "SINGLEzzbLARGE SINGLEzzbSMALL DOUBLEzzbLARGE DOUBLEzhWAVE HITTING FLOOR SMALLzzbLARGEmROTATION-FLOORPL",
    "ANE SINGLE HITTING FLOORzhDOUBLE HITTING FLOORzhALTERNATING HITTING FLOORmMOVEMENT-FLOORPLANE CURVE SM",
    "ALLznMEDIUMznLARGEzsSTznCOMBINEDzhHUMP SMALLzhLOOP SMALLzhWAVE SNAKEznMALLzmLARGEmROTATION-FLOORPLANE ",
    "SINGLEzhDOUBLEzhALTERNATINGmMOVEMENT-FLOORPLANE SHAKING PARALLELvWALLPLANE ARM CIRCLE SMALL SINGLEzrME",
    "DIUM SINGLEzrSMALL DOUBLEzrMEDIUM DOUBLEvFLOORPLANE ARM CIRCLE HITTING WALL SMALL SINGLEzzgMEDIUM SING",
    "LEzzgLARGE SINGLEzzgSMALL DOUBLEzzgMEDIUM DOUBLEzzgLARGE DOUBLEvWALLPLANE WRIST CIRCLE FRONT SINGLEzza",
    "DOUBLEvFLOORPLANE WRIST CIRCLE HITTING WALL SINGLEzziDOUBLEvWALLPLANE FINGER CIRCLES SINGLEzvDOUBLEvFL",
    "OORPLANE FINGER CIRCLES HITTING WALL SINGLEzzkDOUBLEmDYNAMIC ARROWHEAD SMALLzfLARGEuFASTuSLOWuTENSEuRE",
    "LAXEDuSIMULTANEOUSzh ALTERNATINGuEVERY OTHER TIMEuGRADUALmHEADq RIMrMOVEMENT-WALLPLANE STRAIGHTzlTILTz",
    "bFLOORPLANE STRAIGHTzbWALLPLANE CURVEzbFLOORPLANE CURVEza CIRCLEmFACE DIRECTION POSITION NOSE FORWARD ",
    "TILTINGzqUP OR DOWNzzb TILTINGmEYEBROWS STRAIGHT UPzfNEUTRALzfDOWNmDREAMY EYEBROWS NEUTRAL DOWNzdDOWN ",
    "NEUTRALzdUP NEUTRALzdNEUTRAL UPmFOREHEAD NEUTRALvCONTACTvWRINKLEDmEYES OPENrSQUEEZEDrCLOSEDp BLINK SIN",
    "GLEwMULTIPLEpS HALF OPENrWIDE OPENrHALF CLOSEDrWIDENING MOVEMENTp WINKpLASHES UPwDOWNwFLUTTERINGpGAZE-",
    "WALLPLANE STRAIGHTzn DOUBLEzoALTERNATINGuFLOORPLANE STRAIGHTzo DOUBLEzpALTERNATINGuWALLPLANE CURVEDuFL",
    "OORPLANE CURVEDuWALLPLANE CIRCLINGmCHEEKS PUFFEDtNEUTRALtSUCKEDmTENSE CHEEKS HIGHzaMIDDLEzaLOWmEARSmNO",
    "SE NEUTRALrCONTACTrWRINKLESsIGGLESmAIR BLOWING OUTqSUCKING INqBLOW SMALL ROTATIONSqSUCK SMALL ROTATION",
    "SmBREATH INHALEtEXHALEmMOUTH CLOSED NEUTRALzaFORWARDzaCONTACTsSMILEx WRINKLEDyOPENsFROWNx WRINKLEDyOPE",
    "NsOPEN CIRCLExFORWARDxWRINKLEDxOVALzc WRINKLEDzdYAWNxRECTANGLEzh WRINKLEDziYAWNsKISSw FORWARDxWRINKLED",
    "sTENSEx FORWARDySUCKEDmLIPS PRESSED TOGETHERp LOWER OVER UPPERqUPPER OVER LOWERmMOUTH CORNERSsWRINKLES",
    " SINGLEzcDOUBLEmTONGUE STICKING OUT FARtLICKING LIPStTIP BETWEEN LIPSxTOUCHING INSIDE MOUTHtINSIDE MOU",
    "TH RELAXEDtMOVES AGAINST CHEEKtCENTRE STICKING OUTzbINSIDE MOUTHnEETHr MOVEMENTsON TONGUEzc MOVEMENTvL",
    "IPSza MOVEMENTsBITE LIPSmMOVEMENT-WALLPLANE JAWvFLOORPLANE JAWmNECKmHAIRmEXCITEMENTmSHOULDER HIP SPINE",
    "zaPOSITIONSmWALLPLANE SHOULDER HIP MOVEmFLOORPLANE SHOULDER HIP MOVEmSHOULDER TILTING FROM WAISTmTORSO",
    "-WALLPLANE STRAIGHT STRETCHzdCURVED BENDsFLOORPLANE TWISTINGmUPPER BODY TILTING FROM HIP JOINTSmLIMB C",
    "OMBINATIONrLENGTH-1y2y3y4y5y6y7mFINGERmLOCATION-WALLPLANE SPACEvFLOORPLANE SPACEu HEIGHTvWIDTHvDEPTHvH",
    "EAD NECKvTORSOvLIMBS DIGITSmCOMMAmFULL STOPmSEMICOLONmCOLONmPARENTHESIS"]),
  (0x1DA9B, ["aSIGNWRITING FILL MODIFIER-2zb3zb4zb5zb6?mROTATION MODIFIER-2zf3zf4zf5zf6zf7zf8zf9zf10zg1zg2zg",
    "3zg4zg5zg6"]),
  (0x1DF00, ["aLATIN SMALL LETTER FENG DIGRAPH WITH TRILLtREVERSED SCRIPT GgLETTER SMALL CAPITAL TURNED GgSM",
    "ALL LETTER REVERSED KgLETTER SMALL CAPITAL L WITH BELTgSMALL LETTER LEZH WITH RETROFLEX HOOKtTURNED Y ",
    "WITH BELTtREVERSED ENGtTURNED R WITH LONG LEG AND RETROFLEX HOOKu WITH HOOK AND RETROFLEX HOOKgLETTER ",
    "RETROFLEX CLICK WITH RETROFLEX HOOKgSMALL LETTER ESH WITH DOUBLE BARzn AND CURLtTURNED T WITH CURLgLET",
    "TER INVERTED GLOTTAL STOP WITH CURLnSTRETCHED C WITH CURLoMALL CAPITAL TURNED KgSMALL LETTER L WITH FI",
    "SHHOOKtDEZH DIGRAPH WITH PALATAL HOOKtL WITH BELT AND PALATAL HOOKtENG WITH PALATAL HOOKtTURNED R WITH",
    " PALATAL HOOKtR WITH FISHHOOK AND PALATAL HOOKtTESH DIGRAPH WITH PALATAL HOOKtEZH WITH PALATAL HOOKtDE",
    "ZH DIGRAPH WITH RETROFLEX HOOKtI WITH STROKE AND RETROFLEX HOOKtO WITH RETROFLEX HOOKtTESH DIGRAPH WIT",
    "H RETROFLEX HOOKtC WITH RETROFLEX HOOKtS WITH CURL"]),
  (0x1E000, ["aCOMBINING GLAGOLITIC LETTER AZUzdBUKYzdVEDEzdGLAGOLIzdDOBROzdYESTUzdZHIVETE?zeEMLJAzdIZHEzeNI",
    "TIAL IZHEzdIzdDJERVIzdKAKOzdLJUDIJEzdMYSLITEzdNASHIzdONUzdPOKOJIzdRITSIzdSLOVOzdTVRIDOzdUKUzdFRITUzdHE",
    "RU??zdSHTAzdTSIzdCHRIVIzdSHAzdYERUzgIzeATI?zeUzdSMALL YUS?zdYOzdIOTATED SMALL YUSzdBIG YUSzdIOTATED BI",
    "G YUSzdFITA"]),
  (0x1E100, ["aNYIAKENG PUACHUE HMONG LETTER MAzfTSAzfNTAzfTAzfHAzfNAzfXAzfNKAzfCAzfLAzfSAzfZAzfNCAzgTSAzfKA",
    "zfDAzfNYAzgRAzfVAzfNTXAzfTXAzfFAzfRAzfQAzfYAzfNQAzfPAzfXYAzfNPAzfDLAzfNPLAzfHAHzfMLAzfPLAzfGAzfRRAzfAz",
    "gAzfIzfUzfOzgOzfEzgEzfW???xTONE-BzdMzdJzdVzdSzdGzdDxSIGN FOR PERSONzhTHINGzhLOCATIONzhANIMALzhINVERTEB",
    "RATEzdXW XWyYLLABLE LENGTHENER??xDIGIT ZEROzeONEzeTWOzfHREEzeFOURzfIVEzeSIXzfEVENzeEIGHTzeNINE????xLOG",
    "OGRAM NYAJxCIRCLED CA"]),
  (0x1E290, ["aTOTO LETTER PAmBAmTAmDAmKAmGAmMAmNAnGAmSAmCHAmYAmWAmJAmHAmRAmLAmImBREATHY ImIUmBREATHY IUmUmE",
    "mBREATHY EmEOmBREATHY EOmOmAEmBREATHY AEmAfSIGN RISING TONE"]),
  (0x1E2C0, ["aWANCHO LETTER AAoAoBAoCAoDAoGAoYAoPHAoLAoNAoPAoTApHAoFAoSApHAoJAoZAoWAoVAoKAoOoAUoRAoMAoKHAoH",
    "AoEoIoNGAoUoLLHAoTSApRAoONGoAANGpNGoINGoONoENoAANoNYAoUENoYIHhTONE TUPpNImKOIpNIhDIGIT ZEROnONEnTWOoHR",
    "EEnFOURoIVEnSIXoEVENnEIGHTnNINE?????hNGUN SIGN"]),
  (0x1E7E0, ["aETHIOPIC SYLLABLE HHYAvUvIvAAvEEvEvO?sGURAGE HHWAsHHWIvEEvE?sGURAGE MWIzcEE?zaQWIzcEEzcEzaBWI",
    "zcEEzaKWIzcEEzcEzaGWIzcEEzcEzaFWIzcEEzaPWIzcEE?aMENDE KIKAKUI SYLLABLE M001 KIzb2 KAzb3 KUza65 KEEza95",
    " KEza76 KOOza48 KOy179 KUAy004 WIzb5 WAzb6 WUy126 WEEza18 WEzb4 WOOy045 WOy194 WUIza43 WEIy061 WVIza49",
    " WVAy139 WVEy007 MINzb8 MANzb9 MUNza59 MENza94 MONy154 MUANza89 MUENy010 BIzb1 BAzb2 BUy150 BEEy097 BE",
    "y103 BOOza38 BOy013 Izb4 Azb5 Uy163 EEza00 Eza65 OOza47 Oza37 EIzb1 INzb5 INza95 ANza78 ENy019 SIza20 ",
    "SAzb1 SUy162 SEEza16 SEza36 SOOy079 SOy196 SIAy025 LIzb6 LAzb7 LUza84 LEEza73 LEza54 LOOy153 LOza10 LO",
    "NG LEy016 DIzb7 DAzb8 DUza89 DEEy180 DOOzb1 DOy022 TIzb3 TAzb4 TUza91 TEEza55 TEy104 TOOy069 TOza28 JI",
    "zb9 JAza30 JUy157 JEEza13 JEza60 JOOy063 JOy175 LONG JOy031 YIzb2 YAzb3 YUy109 YEEy080 YEy141 YOOza21 ",
    "YOy034 FIzb5 FAzb6 FUza78 FEEzb5 FEy133 FOOy088 FOy197 FUAza01 FANy037 NINzb8 NANzb9 NUNy117 NENza69 N",
    "ONza76 HIy041 HAy186 HUy040 HEEza96 HEza42 HOOy140 HOy083 HEEIy128 HOOUy053 HINy130 HANy087 HUNza52 HE",
    "Ny193 HONy046 HUANza90 NGGIza43 NGGAza82 NGGUy115 NGGEEza46 NGGEza56 NGGOOza20 NGGOza59 NGGAAza27 NGGU",
    "Ay086 LONG NGGEy106 LONG NGGOOza83 LONG NGGOza55 GIza11 GAza68 GUza90 GEEza66 GUEIzb7 GUANza84 NGENy05",
    "7 NGONy177 NGUANy068 PIza99 PAza50 PUza81 PEEza51 PEy102 POOy066 POy145 MBIy062 MBAy122 MBUy047 MBEEy1",
    "88 MBEEy072 MBEy172 MBOOzb4 MBOza87 MBUUza61 LONG MBEza05 LONG MBOOza42 LONG MBOza32 KPIy092 KPAza74 K",
    "PUza44 KPEEy108 KPEza12 KPOOza58 KPOza24 GBIy056 GBAy148 GBUy093 GBEEy107 GBEy071 GBOOzb0 GBOy171 RAza",
    "23 NDIzb9 NDAzb5 NDUza91 NDEEza19 NDEy067 NDOOzb4 NDOy152 NJAza92 NJUza49 NJEEza34 NJOOza82 VIzb5 VAza",
    "51 VUza73 VEEy085 VEy144 VOOy077 VOy164 NYINy058 NYANy170 NYUNy098 NYENza60 NYON??oDIGIT ONEuTWOvHREEu",
    "FOURvIVEuSIXvEVENuEIGHTuNINEoCOMBINING NUMBER TEENSziNSzgHUNDREDSzgTHOUSANDSzhEN THOUSANDSzgHUNDRED TH",
    "OUSANDSzgMILLIONS"]),
  (0x1E900, ["aADLAM CAPITAL LETTER ALIFvDAALIvLAAMvMIIMvBAvSINNYIIYHEvPEvBHEvRAvEvFAvIvOvDHAvYHEvWAWvNUNvKA",
    "FvYAvUvJIIMvCHIvHAvQAAFvGAvNYAvTUvNHAvVAvKHAvGBEvZALvKPOvSHAgSMALL LETTER ALIFtDAALItLAAMtMIIMtBAtSINN",
    "YIIYHEtPEtBHEtRAtEtFAtItOtDHAtYHEtWAWtNUNtKAFtYAtUtJIIMtCHItHAtQAAFtGAtNYAtTUtNHAtVAtKHAtGBEtZALtKPOtS",
    "HAgALIF LENGTHENERgVOWEL LENGTHENERgGEMINATION MARKgHAMZAgCONSONANT MODIFIERgGEMINATE CONSONANT MODIFI",
    "ERgNUKTAhASALIZATION MARK????gDIGIT ZEROmONEmTWOnHREEmFOURnIVEmSIXnEVENmEIGHTmNINE????gINITIAL EXCLAMA",
    "TION MARKoQUESTION MARK"]),
  (0x1EC71, ["aINDIC SIYAQ NUMBER ONEtTWOuHREEtFOURuIVEtSIXuEVENtEIGHTtNINEtTENuWENTYuHIRTYtFORTYuIFTYtSIXTY",
    "uEVENTYtEIGHTYtNINETYtONE HUNDREDtTWO HUNDREDuHREE HUNDREDtFOUR HUNDREDuIVE HUNDREDtSIX HUNDREDuEVEN H",
    "UNDREDtEIGHT HUNDREDtNINE HUNDREDtONE THOUSANDtTWO THOUSANDuHREE THOUSANDtFOUR THOUSANDuIVE THOUSANDtS",
    "IX THOUSANDuEVEN THOUSANDtEIGHT THOUSANDtNINE THOUSANDtTEN THOUSANDuWENTY THOUSANDuHIRTY THOUSANDtFORT",
    "Y THOUSANDuIFTY THOUSANDtSIXTY THOUSANDuEVENTY THOUSANDtEIGHTY THOUSANDtNINETY THOUSANDtLAKHxANmLAKH M",
    "ARKmNUMBER KARORyANtPREFIXED ONEzdTWOzeHREEzdFOURzeIVEzdSIXzeEVENzdEIGHTzdNINEmPLACEHOLDERmFRACTION ON",
    "E QUARTERzaHALFvTHREE QUARTERSmRUPEE MARKmNUMBER ALTERNATE ONEzeTWOzfEN THOUSANDmALTERNATE LAKH MARK"]),
  (0x1ED01, ["aOTTOMAN SIYAQ NUMBER ONEvTWOwHREEvFOURwIVEvSIXwEVENvEIGHTvNINEvTENwWENTYwHIRTYvFORTYwIFTYvSIX",
    "TYwEVENTYvEIGHTYvNINETYvONE HUNDREDvTWO HUNDREDwHREE HUNDREDvFOUR HUNDREDwIVE HUNDREDvSIX HUNDREDwEVEN",
    " HUNDREDvEIGHT HUNDREDvNINE HUNDREDvONE THOUSANDvTWO THOUSANDwHREE THOUSANDvFOUR THOUSANDwIVE THOUSAND",
    "vSIX THOUSANDwEVEN THOUSANDvEIGHT THOUSANDvNINE THOUSANDvTEN THOUSANDwWENTY THOUSANDwHIRTY THOUSANDvFO",
    "RTY THOUSANDwIFTY THOUSANDvSIXTY THOUSANDwEVENTY THOUSANDvEIGHTY THOUSANDvNINETY THOUSANDoMARRATANoALT",
    "ERNATE NUMBER TWOzhHREEzgFOURzhIVEzgSIXzhEVENzgEIGHTzgNINEzgTENzgFOUR HUNDREDzgSIX HUNDREDzgTWO THOUSA",
    "NDzhEN THOUSANDoFRACTION ONE HALFzcSIXTH"]),
  (0x1EE00, ["aARABIC MATHEMATICAL ALEFuBEHuJEEMuDAL?uWAWuZAINuHAHuTAHuYEHuKAFuLAMuMEEMuNOONuSEENuAINuFEHuSA",
    "DuQAFuREHuSHEENuTEHvHEHuKHAHuTHALuDADuZAHuGHAINuDOTLESS BEHzdNOONzdFEHzdQAF?uINITIAL BEHzdJEEM?zdHEH??",
    "zeAH?zdYEHzdKAFzdLAMzdMEEMzdNOONzdSEENzdAINzdFEHzdSADzdQAF?zdSHEENzdTEHzeHEHzdKHAH?zdDAD?zdGHAIN??????",
    "uTAILED JEEM????zcHAH?zcYEH?zcLAM?zcNOONzcSEENzcAIN?zcSADzcQAF?zcSHEEN??zcKHAH?zcDAD?zcGHAIN?zcDOTLESS",
    " NOON?zkQAF?uSTRETCHED BEHzfJEEM?zfHEH??zgAHzfTAHzfYEHzfKAF?zfMEEMzfNOONzfSEENzfAINzfFEHzfSADzfQAF?zfS",
    "HEENzfTEHzgHEHzfKHAH?zfDADzfZAHzfGHAINzfDOTLESS BEH?znFEH?uLOOPED ALEFzcBEHzcJEEMzcDALzcHEHzcWAWzcZAIN",
    "zcHAHzcTAHzcYEH?zcLAMzcMEEMzcNOONzcSEENzcAINzcFEHzcSADzcQAFzcREHzcSHEENzcTEHzdHEHzcKHAHzcTHALzcDADzcZA",
    "HzcGHAIN?????uDOUBLE-STRUCK BEHzjJEEMzjDAL?zjWAWzjZAINzjHAHzjTAHzjYEH?zjLAMzjMEEMzjNOONzjSEENzjAINzjFE",
    "HzjSADzjQAFzjREHzjSHEENzjTEHzkHEHzjKHAHzjTHALzjDADzjZAHzjGHAIN"]),
  (0x1EEF0, ["aARABIC MATHEMATICAL OPERATOR MEEM WITH HAH WITH TATWEELzeHAH WITH DAL"]),
  (0x1F000, ["aMAHJONG TILE EAST WINDnSOUTH WINDnWEST WINDnNORTH WINDnRED DRAGONnGREEN DRAGONnWHITE DRAGONnO",
    "NE OF CHARACTERSnTWO OF CHARACTERSoHREE OF CHARACTERSnFOUR OF CHARACTERSoIVE OF CHARACTERSnSIX OF CHAR",
    "ACTERSoEVEN OF CHARACTERSnEIGHT OF CHARACTERSnNINE OF CHARACTERSnONE OF BAMBOOSnTWO OF BAMBOOSoHREE OF",
    " BAMBOOSnFOUR OF BAMBOOSoIVE OF BAMBOOSnSIX OF BAMBOOSoEVEN OF BAMBOOSnEIGHT OF BAMBOOSnNINE OF BAMBOO",
    "SnONE OF CIRCLESnTWO OF CIRCLESoHREE OF CIRCLESnFOUR OF CIRCLESoIVE OF CIRCLESnSIX OF CIRCLESoEVEN OF ",
    "CIRCLESnEIGHT OF CIRCLESnNINE OF CIRCLESnPLUMnORCHIDnBAMBOOnCHRYSANTHEMUMnSPRINGoUMMERnAUTUMNnWINTERnJ",
    "OKERnBACK????aDOMINO TILE HORIZONTAL BACKw-00-00zc1zc2zc3zc4zc5zc6y1-00zc1zc2zc3zc4zc5zc6y2-00zc1zc2zc",
    "3zc4zc5zc6y3-00zc1zc2zc3zc4zc5zc6y4-00zc1zc2zc3zc4zc5zc6y5-00zc1zc2zc3zc4zc5zc6y6-00zc1zc2zc3zc4zc5zc6",
    "mVERTICAL BACKu-00-00za1za2za3za4za5za6w1-00za1za2za3za4za5za6w2-00za1za2za3za4za5za6w3-00za1za2za3za4",
    "za5za6w4-00za1za2za3za4za5za6w5-00za1za2za3za4za5za6w6-00za1za2za3za4za5za6"]),
  (0x1F0A0, ["aPLAYING CARD BACKnACE OF SPADESnTWO OF SPADESoHREE OF SPADESnFOUR OF SPADESoIVE OF SPADESnSIX",
    " OF SPADESoEVEN OF SPADESnEIGHT OF SPADESnNINE OF SPADESnTEN OF SPADESnJACK OF SPADESnKNIGHT OF SPADES",
    "nQUEEN OF SPADESnKING OF SPADES??nACE OF HEARTSnTWO OF HEARTSoHREE OF HEARTSnFOUR OF HEARTSoIVE OF HEA",
    "RTSnSIX OF HEARTSoEVEN OF HEARTSnEIGHT OF HEARTSnNINE OF HEARTSnTEN OF HEARTSnJACK OF HEARTSnKNIGHT OF",
    " HEARTSnQUEEN OF HEARTSnKING OF HEARTSnRED JOKER?nACE OF DIAMONDSnTWO OF DIAMONDSoHREE OF DIAMONDSnFOU",
    "R OF DIAMONDSoIVE OF DIAMONDSnSIX OF DIAMONDSoEVEN OF DIAMONDSnEIGHT OF DIAMONDSnNINE OF DIAMONDSnTEN ",
    "OF DIAMONDSnJACK OF DIAMONDSnKNIGHT OF DIAMONDSnQUEEN OF DIAMONDSnKING OF DIAMONDSnBLACK JOKER?nACE OF",
    " CLUBSnTWO OF CLUBSoHREE OF CLUBSnFOUR OF CLUBSoIVE OF CLUBSnSIX OF CLUBSoEVEN OF CLUBSnEIGHT OF CLUBS",
    "nNINE OF CLUBSnTEN OF CLUBSnJACK OF CLUBSnKNIGHT OF CLUBSnQUEEN OF CLUBSnKING OF CLUBSnWHITE JOKERnFOO",
    "LnTRUMP-1t2t3t4t5t6t7t8t9t10u1u2u3u4u5u6u7u8u9t20u1"]),
  (0x1F100, ["aDIGIT ZERO FULL STOPlCOMMAgONE COMMAgTWO COMMAhHREE COMMAgFOUR COMMAhIVE COMMAgSIX COMMAhEVEN",
    " COMMAgEIGHT COMMAgNINE COMMAcNGBAT CIRCLED SANS-SERIF DIGIT ZEROiNEGATIVE CIRCLED SANS-SERIF DIGIT ZE",
    "ROaCIRCLED ZERO WITH SLASHiANTICLOCKWISE ARROWiDOLLAR SIGN WITH OVERLAID BACKSLASHaPARENTHESIZED LATIN",
    " CAPITAL LETTER AzkBzkCzkDzkEzkFzkGzkHzkIzkJzkKzkLzkMzkNzkOzkPzkQzkRzkSzkTzkUzkVzkWzkXzkYzkZaTORTOISE ",
    "SHELL BRACKETED LATIN CAPITAL LETTER SaCIRCLED ITALIC LATIN CAPITAL LETTER CzlRiCDiWZbOPYLEFT SYMBOLaS",
    "QUARED LATIN CAPITAL LETTER AzeBzeCzeDzeEzeFzeGzeHzeIzeJzeKzeLzeMzeNzeOzePzeQzeRzeSzeTzeUzeVzeWzeXzeYz",
    "eZiHViMViSDjSiPPViWCaNEGATIVE CIRCLED LATIN CAPITAL LETTER AznBznCznDznEznFznGznHznIznJznKznLznMznNznO",
    "znPznQznRznSznTznUznVznWznXznYznZaRAISED MC SIGNiD SIGNiR SIGNaCIRCLED CCj WITH OVERLAID BACKSLASHiHUM",
    "AN FIGUREaNEGATIVE SQUARED LATIN CAPITAL LETTER AznBznCznDznEznFznGznHznIznJznKznLznMznNznOznPznQznRzn",
    "SznTznUznVznWznXznYznZaCROSSED NEGATIVE SQUARED LATIN CAPITAL LETTER PaNEGATIVE SQUARED ICrPArSArABrWC",
    "aSQUARE DJgD CLjOOLiFREEiIDiNEWjGiOKiSOSiUP WITH EXCLAMATION MARKiVSiTHREE DiSECOND SCREENiTWO KiFOUR ",
    "KiEIGHT KiFIVE POINT ONEiSEVEN POINT ONEiTWENTY-TWO POINT TWOiSIXTY PiONE HUNDRED TWENTY PiLATIN SMALL",
    " LETTER DiHCjDRjI-RESiLOSSLESSiSHViUHDiVODaMASK WORK SYMBOL"]),
  (0x1F1E6, ["aREGIONAL INDICATOR SYMBOL LETTER AziBziCziDziEziFziGziHziIziJziKziLziMziNziOziPziQziRziSziTzi",
    "UziVziWziXziYziZaSQUARE HIRAGANA HOKAgD KATAKANA KOKOrSA"]),
  (0x1F210, ["aSQUARED CJK UNIFIED IDEOGRAPH-624Bzf5B57zg3CCiKATAKANA DEiCJK UNIFIED IDEOGRAPH-4E8Czf591Azf8",
    "9E3zf5929zf4EA4zf6620zf7121zf6599zf524DzgF8Czg18Dzf65B0zf521Dzf7D42zg51Fzf8CA9zf58F0zg439zf6F14zg295zg",
    "355zf4E00zi9zf904Azf5DE6zf4E2Dzf53F3zf6307zf8D70zf6253zf7981zgA7Azf5408zf6E80zg709zi8zf7533zf5272zg5B6",
    "zf914D????aTORTOISE SHELL BRACKETED CJK UNIFIED IDEOGRAPH-672Czw4E09zy8Czw5B89zw70B9zw6253zw76D7zw52DD",
    "zw6557???????aCIRCLED IDEOGRAPH ADVANTAGEtCCEPT"]),
  (0x1F260, ["aROUNDED SYMBOL FOR FUtLUtSHOUtXItSHUANGXItCAI"]),
  (0x1F300, ["aCYCLONEaFOGGYaCLOSED UMBRELLAaNIGHT WITH STARSaSUNRISE OVER MOUNTAINSgEaCITYSCAPE AT DUSKaSUN",
    "SET OVER BUILDINGSaRAINBOWaBRIDGE AT NIGHTaWATER WAVEaVOLCANOaMILKY WAYaEARTH GLOBE EUROPE-AFRICAmAMER",
    "ICASnSIA-AUSTRALIAaGLOBE WITH MERIDIANSaNEW MOON SYMBOLaWAXING CRESCENT MOON SYMBOLaFIRST QUARTER MOON",
    " SYMBOLaWAXING GIBBOUS MOON SYMBOLaFULL MOON SYMBOLaWANING GIBBOUS MOON SYMBOLaLAST QUARTER MOON SYMBO",
    "LaWANING CRESCENT MOON SYMBOLaCRESCENT MOONaNEW MOON WITH FACEaFIRST QUARTER MOON WITH FACEaLAST QUART",
    "ER MOON WITH FACEaFULL MOON WITH FACEaSUN WITH FACEaGLOWING STARaSHOOTING STARaTHERMOMETERaBLACK DROPL",
    "ETaWHITE SUNj WITH SMALL CLOUDkBEHIND CLOUDw WITH RAINaCLOUD WITH RAINlSNOWlLIGHTNINGlTORNADOaFOGaWIND",
    " BLOWING FACEaHOT DOGaTACOaBURRITOaCHESTNUTaSEEDLINGaEVERGREEN TREEaDECIDUOUS TREEaPALM TREEaCACTUSaHO",
    "T PEPPERaTULIPaCHERRY BLOSSOMaROSEaHIBISCUSaSUNFLOWERaBLOSSOMaEAR OF MAIZEhRICEaHERBaFOUR LEAF CLOVERa",
    "MAPLE LEAFaFALLEN LEAFaLEAF FLUTTERING IN WINDaMUSHROOMaTOMATOaAUBERGINEaGRAPESaMELONaWATERMELONaTANGE",
    "RINEaLEMONaBANANAaPINEAPPLEaRED APPLEaGREEN APPLEaPEARdCHaCHERRIESaSTRAWBERRYaHAMBURGERaSLICE OF PIZZA",
    "aMEAT ON BONEaPOULTRY LEGaRICE CRACKERfBALLaCOOKED RICEbURRY AND RICEaSTEAMING BOWLbPAGHETTIaBREADaFRE",
    "NCH FRIESaROASTED SWEET POTATOaDANGOaODENaSUSHIaFRIED SHRIMPbISH CAKE WITH SWIRL DESIGNaSOFT ICE CREAM",
    "bHAVED ICEaICE CREAMaDOUGHNUTaCOOKIEbHOCOLATE BARbANDYaLOLLIPOPaCUSTARDaHONEY POTaSHORTCAKEaBENTO BOXa",
    "POT OF FOODaCOOKINGaFORK AND KNIFEaTEACUP WITHOUT HANDLEaSAKE BOTTLE AND CUPaWINE GLASSaCOCKTAIL GLASS",
    "aTROPICAL DRINKaBEER MUGaCLINKING BEER MUGSaBABY BOTTLEaFORK AND KNIFE WITH PLATEaBOTTLE WITH POPPING ",
    "CORKaPOPCORNaRIBBONaWRAPPED PRESENTaBIRTHDAY CAKEaJACK-O-LANTERNaCHRISTMAS TREEaFATHER CHRISTMASbIREWO",
    "RKSi SPARKLERaBALLOONaPARTY POPPERaCONFETTI BALLaTANABATA TREEaCROSSED FLAGSaPINE DECORATIONaJAPANESE ",
    "DOLLSaCARP STREAMERaWIND CHIMEaMOON VIEWING CEREMONYaSCHOOL SATCHELaGRADUATION CAPaHEART WITH TIP ON T",
    "HE LEFTaBOUQUET OF FLOWERSaMILITARY MEDALaREMINDER RIBBONaMUSICAL KEYBOARD WITH JACKSaSTUDIO MICROPHON",
    "EaLEVEL SLIDERaCONTROL KNOBSaBEAMED ASCENDING MUSICAL NOTEShDESCENDING MUSICAL NOTESaFILM FRAMESaADMIS",
    "SION TICKETSaCAROUSEL HORSEaFERRIS WHEELaROLLER COASTERaFISHING POLE AND FISHaMICROPHONEbOVIE CAMERAaC",
    "INEMAaHEADPHONEaARTIST PALETTEaTOP HATaCIRCUS TENTaTICKETaCLAPPER BOARDaPERFORMING ARTSaVIDEO GAMEaDIR",
    "ECT HITaSLOT MACHINEaBILLIARDSaGAME DIEaBOWLINGaFLOWER PLAYING CARDSaMUSICAL NOTEcLTIPLE MUSICAL NOTES",
    "aSAXOPHONEaGUITARaMUSICAL KEYBOARDaTRUMPETaVIOLINaMUSICAL SCOREaRUNNING SHIRT WITH SASHaTENNIS RACQUET",
    " AND BALLaSKI AND SKI BOOTaBASKETBALL AND HOOPaCHEQUERED FLAGaSNOWBOARDERaRUNNERaSURFERbPORTS MEDALaTR",
    "OPHYaHORSE RACINGaAMERICAN FOOTBALLaRUGBY FOOTBALLaSWIMMERaWEIGHT LIFTERaGOLFERaRACING MOTORCYCLEhCARa",
    "CRICKET BAT AND BALLaVOLLEYBALLaFIELD HOCKEY STICK AND BALLaICE HOCKEY STICK AND PUCKaTABLE TENNIS PAD",
    "DLE AND BALLaSNOW CAPPED MOUNTAINaCAMPINGaBEACH WITH UMBRELLAbUILDING CONSTRUCTIONaHOUSE BUILDINGSaCIT",
    "YSCAPEaDERELICT HOUSE BUILDINGaCLASSICAL BUILDINGaDESERTg ISLANDaNATIONAL PARKaSTADIUMaHOUSE BUILDINGg",
    "WITH GARDENaOFFICE BUILDINGaJAPANESE POST OFFICEaEUROPEAN POST OFFICEaHOSPITALaBANKaAUTOMATED TELLER M",
    "ACHINEaHOTELaLOVE HOTELaCONVENIENCE STOREaSCHOOLaDEPARTMENT STOREaFACTORYaIZAKAYA LANTERNaJAPANESE CAS",
    "TLEaEUROPEAN CASTLEaWHITE PENNANTaBLACK PENNANTaWAVING WHITE FLAGhBLACK FLAGaROSETTEaBLACK ROSETTEaLAB",
    "ELaBADMINTON RACQUET AND SHUTTLECOCKbOW AND ARROWaAMPHORAaEMOJI MODIFIER FITZPATRICK TYPE-1-2zh3zh4zh5",
    "zh6aRATaMOUSEaOXaWATER BUFFALOaCOWaTIGERaLEOPARDaRABBITaCATaDRAGONaCROCODILEaWHALEaSNAILdKEaHORSEaRAMa",
    "GOATaSHEEPaMONKEYaROOSTERaCHICKENaDOGaPIGaBOARaELEPHANTaOCTOPUSaSPIRAL SHELLaBUGaANTaHONEYBEEaLADY BEE",
    "TLEaFISHaTROPICAL FISHaBLOWFISHaTURTLEaHATCHING CHICKaBABY CHICKaFRONT-FACING BABY CHICKaBIRDaPENGUINa",
    "KOALAaPOODLEaDROMEDARY CAMELaBACTRIAN CAMELaDOLPHINaMOUSE FACEaCOW FACEaTIGER FACEaRABBIT FACEaCAT FAC",
    "EaDRAGON FACEaSPOUTING WHALEaHORSE FACEaMONKEY FACEaDOG FACEaPIG FACEaFROG FACEaHAMSTER FACEaWOLF FACE",
    "aBEAR FACEaPANDA FACEbIG NOSEbAW PRINTSaCHIPMUNKaEYEScEbARaNOSEaMOUTHaTONGUEaWHITE UP POINTING BACKHAN",
    "D INDEXgDOWN POINTING BACKHAND INDEXgLEFT POINTING BACKHAND INDEXgRIGHT POINTING BACKHAND INDEXaFISTED",
    " HAND SIGNaWAVING HAND SIGNaOK HAND SIGNaTHUMBS UP SIGNhDOWN SIGNaCLAPPING HANDS SIGNaOPEN HANDS SIGNa",
    "CROWNaWOMANS HATaEYEGLASSESaNECKTIEaT-SHIRTaJEANSaDRESSaKIMONOaBIKINIaWOMANS CLOTHESaPURSEaHANDBAGaPOU",
    "CHaMANS SHOEaATHLETIC SHOEaHIGH-HEELED SHOEaWOMANS SANDALhBOOTSaFOOTPRINTSaBUST IN SILHOUETTEeS IN SIL",
    "HOUETTEbOYaGIRLaMANaWOMANaFAMILYaMAN AND WOMAN HOLDING HANDSaTWO MEN HOLDING HANDSeWOMEN HOLDING HANDS",
    "aPOLICE OFFICERaWOMAN WITH BUNNY EARSaBRIDE WITH VEILaPERSON WITH BLOND HAIRaMAN WITH GUA PI MAOjTURBA",
    "NaOLDER MANgWOMANaBABYaCONSTRUCTION WORKERaPRINCESSaJAPANESE OGREjGOBLINaGHOSTaBABY ANGELaEXTRATERREST",
    "RIAL ALIENaALIEN MONSTERaIMPaSKULLaINFORMATION DESK PERSONaGUARDSMANaDANCERaLIPSTICKaNAIL POLISHaFACE ",
    "MASSAGEaHAIRCUTaBARBER POLEaSYRINGEaPILLaKISS MARKaLOVE LETTERaRINGaGEM STONEaKISSaBOUQUETaCOUPLE WITH",
    " HEARTaWEDDINGaBEATING HEARTbROKEN HEARTaTWO HEARTSaSPARKLING HEARTaGROWING HEARTaHEART WITH ARROWaBLU",
    "E HEARTaGREEN HEARTaYELLOW HEARTaPURPLE HEARTaHEART WITH RIBBONaREVOLVING HEARTSaHEART DECORATIONaDIAM",
    "OND SHAPE WITH A DOT INSIDEaELECTRIC LIGHT BULBaANGER SYMBOLaBOMBaSLEEPING SYMBOLaCOLLISION SYMBOLaSPL",
    "ASHING SWEAT SYMBOLaDROPLETbASH SYMBOLaPILE OF POOaFLEXED BICEPSaDIZZY SYMBOLaSPEECH BALLOONaTHOUGHT B",
    "ALLOONaWHITE FLOWERaHUNDRED POINTS SYMBOLaMONEY BAGaCURRENCY EXCHANGEaHEAVY DOLLAR SIGNaCREDIT CARDaBA",
    "NKNOTE WITH YEN SIGNoDOLLAR SIGNoEURO SIGNoPOUND SIGNaMONEY WITH WINGSaCHART WITH UPWARDS TREND AND YE",
    "N SIGNaSEATaPERSONAL COMPUTERaBRIEFCASEaMINIDISCaFLOPPY DISKaOPTICAL DISCaDVDaFILE FOLDERaOPEN FILE FO",
    "LDERaPAGE WITH CURLfFACING UPaCALENDARaTEAR-OFF CALENDARaCARD INDEXbHART WITH UPWARDS TRENDlDOWNWARDS ",
    "TRENDaBAR CHARTaCLIPBOARDaPUSHPINaROUND PUSHPINaPAPERCLIPaSTRAIGHT RULERaTRIANGULAR RULERaBOOKMARK TAB",
    "SaLEDGERaNOTEBOOKi WITH DECORATIVE COVERaCLOSED BOOKaOPEN BOOKaGREEN BOOKaBLUE BOOKaORANGE BOOKaBOOKSa",
    "NAME BADGEaSCROLLaMEMOaTELEPHONE RECEIVERaPAGERaFAX MACHINEaSATELLITE ANTENNAaPUBLIC ADDRESS LOUDSPEAK",
    "ERaCHEERING MEGAPHONEaOUTBOX TRAYaINBOX TRAYaPACKAGEaE-MAIL SYMBOLaINCOMING ENVELOPEaENVELOPE WITH DOW",
    "NWARDS ARROW ABOVEaCLOSED MAILBOX WITH LOWERED FLAGuRAISED FLAGaOPEN MAILBOX WITH RAISED FLAGsLOWERED ",
    "FLAGaPOSTBOXeAL HORNaNEWSPAPERaMOBILE PHONEm WITH RIGHTWARDS ARROW AT LEFTaVIBRATION MODEaMOBILE PHONE",
    " OFFaNO MOBILE PHONESaANTENNA WITH BARSaCAMERAg WITH FLASHaVIDEO CAMERAaTELEVISIONaRADIOaVIDEOCASSETTE",
    "aFILM PROJECTORaPORTABLE STEREObRAYER BEADSaTWISTED RIGHTWARDS ARROWSaCLOCKWISE RIGHTWARDS AND LEFTWAR",
    "DS OPEN CIRCLE ARROWSzzd WITH CIRCLED ONE OVERLAYkDOWNWARDS AND UPWARDS OPEN CIRCLE ARROWSaANTICLOCKWI",
    "SE DOWNWARDS AND UPWARDS OPEN CIRCLE ARROWSaLOW BRIGHTNESS SYMBOLaHIGH BRIGHTNESS SYMBOLaSPEAKER WITH ",
    "CANCELLATION STROKEgRh WITH ONE SOUND WAVEnTHREE SOUND WAVESaBATTERYaELECTRIC PLUGaLEFT-POINTING MAGNI",
    "FYING GLASSaRIGHT-POINTING MAGNIFYING GLASSaLOCK WITH INK PENaCLOSED LOCK WITH KEYaKEYaLOCKaOPEN LOCKa",
    "BELLe WITH CANCELLATION STROKEbOOKMARKaLINK SYMBOLaRADIO BUTTONaBACK WITH LEFTWARDS ARROW ABOVEaEND WI",
    "TH LEFTWARDS ARROW ABOVEaON WITH EXCLAMATION MARK WITH LEFT RIGHT ARROW ABOVEaSOON WITH RIGHTWARDS ARR",
    "OW ABOVEaTOP WITH UPWARDS ARROW ABOVEaNO ONE UNDER EIGHTEEN SYMBOLaKEYCAP TENaINPUT SYMBOL FOR LATIN C",
    "APITAL LETTERSxSMALL LETTERSrNUMBERSrSYMBOLSrLATIN LETTERSaFIREaELECTRIC TORCHaWRENCHaHAMMERaNUT AND B",
    "OLTaHOCHOaPISTOLaMICROSCOPEaTELESCOPEaCRYSTAL BALLaSIX POINTED STAR WITH MIDDLE DOTaJAPANESE SYMBOL FO",
    "R BEGINNERaTRIDENT EMBLEMaBLACK SQUARE BUTTONaWHITE SQUARE BUTTONaLARGE RED CIRCLEgBLUE CIRCLEgORANGE ",
    "DIAMONDgBLUE DIAMONDaSMALL ORANGE DIAMONDgBLUE DIAMONDaUP-POINTING RED TRIANGLEaDOWN-POINTING RED TRIA",
    "NGLEaUP-POINTING SMALL RED TRIANGLEaDOWN-POINTING SMALL RED TRIANGLEaLOWER RIGHT SHADOWED WHITE CIRCLE",
    "aUPPER RIGHT SHADOWED WHITE CIRCLEaCIRCLED CROSS POMMEEbROSS POMMEE WITH HALF-CIRCLE BELOWlEaNOTCHED L",
    "EFT SEMICIRCLE WITH THREE DOTSiRIGHT SEMICIRCLE WITH THREE DOTSaSYMBOL FOR MARKS CHAPTERaWHITE LATIN C",
    "ROSSaHEAVY LATIN CROSSaCELTIC CROSSaOM SYMBOLaDOVE OF PEACEaKAABAaMOSQUEaSYNAGOGUEaMENORAH WITH NINE B",
    "RANCHESaBOWL OF HYGIEIAaCLOCK FACE ONE OCLOCKlTWO OCLOCKmHREE OCLOCKlFOUR OCLOCKmIVE OCLOCKlSIX OCLOCK",
    "mEVEN OCLOCKlEIGHT OCLOCKlNINE OCLOCKlTEN OCLOCKlELEVEN OCLOCKlTWELVE OCLOCKlONE-THIRTYlTWO-THIRTYmHRE",
    "E-THIRTYlFOUR-THIRTYmIVE-THIRTYlSIX-THIRTYmEVEN-THIRTYlEIGHT-THIRTYlNINE-THIRTYlTEN-THIRTYlELEVEN-THIR",
    "TYlTWELVE-THIRTYaRIGHT SPEAKERn WITH ONE SOUND WAVEtTHREE SOUND WAVESaBULLHORNi WITH SOUND WAVESaRINGI",
    "NG BELLaBOOKaCANDLEaMANTELPIECE CLOCKaBLACK SKULL AND CROSSBONESaNO PIRACYaHOLEaMAN IN BUSINESS SUIT L",
    "EVITATINGaSLEUTH OR SPYaDARK SUNGLASSESaSPIDERg WEBaJOYSTICKaMAN DANCINGaLEFT HAND TELEPHONE RECEIVERa",
    "TELEPHONE RECEIVER WITH PAGEaRIGHT HAND TELEPHONE RECEIVERaWHITE TOUCHTONE TELEPHONEaBLACK TOUCHTONE T",
    "ELEPHONEaTELEPHONE ON TOP OF MODEMaCLAMSHELL MOBILE PHONEaBACK OF ENVELOPEaSTAMPED ENVELOPEaENVELOPE W",
    "ITH LIGHTNINGaFLYING ENVELOPEaPEN OVER STAMPED ENVELOPEaLINKED PAPERCLIPSaBLACK PUSHPINaLOWER LEFT PEN",
    "CILlBALLPOINT PENlFOUNTAIN PENlPAINTBRUSHlCRAYONbEFT WRITING HANDaTURNED OK HAND SIGNaRAISED HAND WITH",
    " FINGERS SPLAYEDbEVERSED RAISED HAND WITH FINGERS SPLAYEDjTHUMBS UP SIGNqDOWN SIGNjVICTORY HANDjHAND W",
    "ITH MIDDLE FINGER EXTENDEDbAISED HAND WITH PART BETWEEN MIDDLE AND RING FINGERSaWHITE DOWN POINTING LE",
    "FT HAND INDEXaSIDEWAYS WHITE LEFT POINTING INDEXpRIGHT POINTING INDEXjBLACK LEFT POINTING INDEXpRIGHT ",
    "POINTING INDEXaBLACK LEFT POINTING BACKHAND INDEXgRIGHT POINTING BACKHAND INDEXaSIDEWAYS WHITE UP POIN",
    "TING INDEXpDOWN POINTING INDEXjBLACK UP POINTING INDEXpDOWN POINTING INDEXaBLACK UP POINTING BACKHAND ",
    "INDEXgDOWN POINTING BACKHAND INDEXgHEARTaDESKTOP COMPUTERaKEYBOARD AND MOUSEaTHREE NETWORKED COMPUTERS",
    "aPRINTERbOCKET CALCULATORaBLACK HARD SHELL FLOPPY DISKaWHITE HARD SHELL FLOPPY DISKaSOFT SHELL FLOPPY ",
    "DISKaTAPE CARTRIDGEaWIRED KEYBOARDaONE BUTTON MOUSEaTWO BUTTON MOUSEbHREE BUTTON MOUSEbRACKBALLaOLD PE",
    "RSONAL COMPUTERaHARD DISKaSCREENaPRINTER ICONaFAX ICONaOPTICAL DISC ICONaDOCUMENT WITH TEXTs AND PICTU",
    "REoPICTUREaFRAME WITH PICTURElTILESlAN XaBLACK FOLDERaFOLDERaOPEN FOLDERaCARD INDEX DIVIDERSfFILE BOXa",
    "FILE CABINETaEMPTY NOTEk PAGEnDaNOTEe PAGEhDaEMPTY DOCUMENTgPAGEkSaDOCUMENTaPAGEeSaWASTEBASKETaSPIRAL ",
    "NOTE PADhCALENDAR PADaDESKTOP WINDOWaMINIMIZEbAXIMIZEaOVERLAPaCLOCKWISE RIGHT AND LEFT SEMICIRCLE ARRO",
    "WSbANCELLATION XaINCREASE FONT SIZE SYMBOLaDECREASE FONT SIZE SYMBOLaCOMPRESSIONaOLD KEYaROLLED-UP NEW",
    "SPAPERaPAGE WITH CIRCLED TEXTaSTOCK CHARTaDAGGER KNIFEaLIPSaSPEAKING HEAD IN SILHOUETTEaTHREE RAYS ABO",
    "VElBELOWlLEFTlRIGHTaLEFT SPEECH BUBBLEaRIGHT SPEECH BUBBLEaTWO SPEECH BUBBLESbHREE SPEECH BUBBLESaLEFT",
    " THOUGHT BUBBLEaRIGHT THOUGHT BUBBLEaLEFT ANGER BUBBLEaRIGHT ANGER BUBBLEaMOOD BUBBLEaLIGHTNING MOOD B",
    "UBBLEnDaBALLOT BOX WITH BALLOThSCRIPT XhBOX WITH SCRIPT XjLD SCRIPT XjX WITH BOLD SCRIPT XaLIGHT CHECK",
    " MARKaBALLOT BOX WITH BOLD CHECKaWORLD MAPaMOUNT FUJIaTOKYO TOWERaSTATUE OF LIBERTYbILHOUETTE OF JAPAN",
    "aMOYAIaGRINNING FACEn WITH SMILING EYESaFACE WITH TEARS OF JOYaSMILING FACE WITH OPEN MOUTHzd AND SMIL",
    "ING EYESziCOLD SWEATziTIGHTLY-CLOSED EYESsHALOtORNSaWINKING FACEaSMILING FACE WITH SMILING EYESaFACE S",
    "AVOURING DELICIOUS FOODaRELIEVED FACEaSMILING FACE WITH HEART-SHAPED EYESsSUNGLASSESdRKING FACEaNEUTRA",
    "L FACEaEXPRESSIONLESS FACEaUNAMUSED FACEaFACE WITH COLD SWEATaPENSIVE FACEaCONFUSED FACEeOUNDED FACEaK",
    "ISSING FACEaFACE THROWING A KISSaKISSING FACE WITH SMILING EYESsCLOSED EYESaFACE WITH STUCK-OUT TONGUE",
    "zb AND WINKING EYEzgTIGHTLY-CLOSED EYESaDISAPPOINTED FACEaWORRIED FACEaANGRY FACEaPOUTING FACEaCRYING ",
    "FACEaPERSEVERING FACEaFACE WITH LOOK OF TRIUMPHaDISAPPOINTED BUT RELIEVED FACEaFROWNING FACE WITH OPEN",
    " MOUTHaANGUISHED FACEaFEARFUL FACEaWEARY FACEaSLEEPY FACEaTIRED FACEaGRIMACING FACEaLOUDLY CRYING FACE",
    "aFACE WITH OPEN MOUTHaHUSHED FACEaFACE WITH OPEN MOUTH AND COLD SWEATfSCREAMING IN FEARaASTONISHED FAC",
    "EaFLUSHED FACEaSLEEPING FACEaDIZZY FACEaFACE WITHOUT MOUTHj MEDICAL MASKaGRINNING CAT FACE WITH SMILIN",
    "G EYESaCAT FACE WITH TEARS OF JOYaSMILING CAT FACE WITH OPEN MOUTHwHEART-SHAPED EYESaCAT FACE WITH WRY",
    " SMILEaKISSING CAT FACE WITH CLOSED EYESaPOUTING CAT FACEaCRYING CAT FACEaWEARY CAT FACEaSLIGHTLY FROW",
    "NING FACEjSMILING FACEaUPSIDE-DOWN FACEaFACE WITH ROLLING EYESkNO GOOD GESTUREkOK GESTUREaPERSON BOWIN",
    "G DEEPLYaSEE-NO-EVIL MONKEYaHEAR-NO-EVIL MONKEYaSPEAK-NO-EVIL MONKEYaHAPPY PERSON RAISING ONE HANDaPER",
    "SON RAISING BOTH HANDS IN CELEBRATIONhFROWNINGhWITH POUTING FACEmFOLDED HANDSaNORTH WEST POINTING LEAF",
    "aSOUTH WEST POINTING LEAFaNORTH EAST POINTING LEAFaSOUTH EAST POINTING LEAFaTURNED NORTH WEST POINTING",
    " LEAFhSOUTH WEST POINTING LEAFhNORTH EAST POINTING LEAFhSOUTH EAST POINTING LEAFaNORTH WEST POINTING V",
    "INE LEAFaSOUTH WEST POINTING VINE LEAFaNORTH EAST POINTING VINE LEAFaSOUTH EAST POINTING VINE LEAFaHEA",
    "VY NORTH WEST POINTING VINE LEAFgSOUTH WEST POINTING VINE LEAFgNORTH EAST POINTING VINE LEAFgSOUTH EAS",
    "T POINTING VINE LEAFaNORTH WEST POINTING BUDaSOUTH WEST POINTING BUDaNORTH EAST POINTING BUDaSOUTH EAS",
    "T POINTING BUDaHEAVY NORTH WEST POINTING BUDgSOUTH WEST POINTING BUDgNORTH EAST POINTING BUDgSOUTH EAS",
    "T POINTING BUDbOLLOW QUILT SQUARE ORNAMENTzd IN BLACK SQUAREaSOLID QUILT SQUARE ORNAMENTzc IN BLACK SQ",
    "UAREaLEFTWARDS ROCKETaUPWARDS ROCKETaRIGHTWARDS ROCKETaDOWNWARDS ROCKETaSCRIPT LIGATURE ET ORNAMENTaHE",
    "AVY SCRIPT LIGATURE ET ORNAMENTaLIGATURE OPEN ET ORNAMENTaHEAVY LIGATURE OPEN ET ORNAMENTgAMPERSAND OR",
    "NAMENTaSWASH AMPERSAND ORNAMENTbANS-SERIF HEAVY DOUBLE TURNED COMMA QUOTATION MARK ORNAMENTyCOMMA QUOT",
    "ATION MARK ORNAMENTrLOW DOUBLE COMMA QUOTATION MARK ORNAMENTaHEAVY INTERROBANG ORNAMENTaSANS-SERIF INT",
    "ERROBANG ORNAMENTaHEAVY SANS-SERIF INTERROBANG ORNAMENTaVERY HEAVY SOLIDUSlREVERSE SOLIDUSaCHECKER BOA",
    "RDaREVERSE CHECKER BOARDbOCKETaHELICOPTERaSTEAM LOCOMOTIVEaRAILWAY CARaHIGH-SPEED TRAINq WITH BULLET N",
    "OSEaTRAINaMETROaLIGHT RAILaSTATIONaTRAMe CARaBUSaONCOMING BUSaTROLLEYBUSaBUS STOPaMINIBUSaAMBULANCEaFI",
    "RE ENGINEaPOLICE CARaONCOMING POLICE CARaTAXIaONCOMING TAXIaAUTOMOBILEaONCOMING AUTOMOBILEaRECREATIONA",
    "L VEHICLEaDELIVERY TRUCKaARTICULATED LORRYaTRACTORaMONORAILcUNTAIN RAILWAYaSUSPENSION RAILWAYaMOUNTAIN",
    " CABLEWAYaAERIAL TRAMWAYaSHIPaROWBOATaSPEEDBOATaHORIZONTAL TRAFFIC LIGHTaVERTICAL TRAFFIC LIGHTaCONSTR",
    "UCTION SIGNaPOLICE CARS REVOLVING LIGHTaTRIANGULAR FLAG ON POSTaDOORaNO ENTRY SIGNaSMOKING SYMBOLaNO S",
    "MOKING SYMBOLaPUT LITTER IN ITS PLACE SYMBOLaDO NOT LITTER SYMBOLaPOTABLE WATER SYMBOLaNON-POTABLE WAT",
    "ER SYMBOLaBICYCLEaNO BICYCLESaBICYCLISTaMOUNTAIN BICYCLISTaPEDESTRIANaNO PEDESTRIANSaCHILDREN CROSSING",
    "aMENS SYMBOLaWOMENS SYMBOLaRESTROOMaBABY SYMBOLaTOILETaWATER CLOSETaSHOWERaBATHeTUBaPASSPORT CONTROLaC",
    "USTOMSaBAGGAGE CLAIMaLEFT LUGGAGEaTRIANGLE WITH ROUNDED CORNERSaPROHIBITED SIGNaCIRCLED INFORMATION SO",
    "URCEaBOYS SYMBOLaGIRLS SYMBOLaCOUCH AND LAMPaSLEEPING ACCOMMODATIONbHOPPING BAGSaBELLHOP BELLcDaPLACE ",
    "OF WORSHIPaOCTAGONAL SIGNaSHOPPING TROLLEYbTUPAaPAGODAaHINDU TEMPLEbUTaELEVATOR?????aPLAYGROUND SLIDEa",
    "WHEELaRING BUOYaHAMMER AND WRENCHaSHIELDaOIL DRUMaMOTORWAYaRAILWAY TRACKaMOTOR BOATaUP-POINTING MILITA",
    "RY AIRPLANEmAIRPLANEmSMALL AIRPLANEaSMALL AIRPLANEaNORTHEAST-POINTING AIRPLANEaAIRPLANE DEPARTUREjARRI",
    "VING???aSATELLITEaONCOMING FIRE ENGINEaDIESEL LOCOMOTIVEaPASSENGER SHIPaSCOOTERaMOTOR SCOOTERaCANOEaSL",
    "EDaFLYING SAUCERaSKATEBOARDaAUTO RICKSHAWaPICKUP TRUCKaROLLER SKATE???aALCHEMICAL SYMBOL FOR QUINTESSE",
    "NCEwAIRwFIREwEARTHwWATERwAQUAFORTISzb REGIAzh-2zcVITAEzh-2wVINEGARze-2zf3wSULFURwPHILOSOPHERS SULFURwB",
    "LACK SULFURwMERCURY SUBLIMATEzo-2zp3wCINNABARwSALTwNITREwVITRIOLze-2wROCK SALTzg-2wGOLDwSILVERwIRON OR",
    "Ezf-2wCROCUS OF IRONwREGULUS OF IRONwCOPPER OREwIRON-COPPER OREwSUBLIMATE OF COPPERwCROCUS OF COPPERzn",
    "-2xOPPER ANTIMONIATEwSALT OF COPPER ANTIMONIATExUBLIMATE OF SALT OF COPPERwVERDIGRISwTIN OREwLEAD OREw",
    "ANTIMONY OREwSUBLIMATE OF ANTIMONYxALT OF ANTIMONYxUBLIMATE OF SALT OF ANTIMONYwVINEGAR OF ANTIMONYwRE",
    "GULUS OF ANTIMONYzq-2zdSze-2zf3zf4wALKALIzd-2wMARCASITEwSAL-AMMONIACwARSENICwREALGARze-2wAURIPIGMENTwB",
    "ISMUTH OREwTARTARzd-2wQUICK LIMEwBORAXzc-2zd3wALUMwOILwSPIRITwTINCTUREwGUMwWAXwPOWDERwCALXwTUTTYwCAPUT",
    " MORTUUMwSCEPTER OF JOVEwCADUCEUSwTRIDENTwSTARRED TRIDENTwLODESTONEwSOAPwURINEwHORSE DUNGwASHESwPOT AS",
    "HESwBRICKwPOWDERED BRICKwAMALGAMwSTRATUM SUPER STRATUMzs-2xUBLIMATIONwPRECIPITATEwDISTILLzaSOLVEzf-2wP",
    "URIFYyTREFACTIONwCRUCIBLEzf-2zg3zg4zg5wALEMBICwBATH OF MARYzfVAPOURSwRETORTwHOURwNIGHTwDAY-NIGHTwMONTH",
    "wHALF DRAMzcOUNCE"]),
  (0x1F780, ["aBLACK LEFT-POINTING ISOSCELES RIGHT TRIANGLEgUP-POINTING ISOSCELES RIGHT TRIANGLEgRIGHT-POINT",
    "ING ISOSCELES RIGHT TRIANGLEgDOWN-POINTING ISOSCELES RIGHT TRIANGLEgSLIGHTLY SMALL CIRCLEaMEDIUM BOLD ",
    "WHITE CIRCLEaBOLD WHITE CIRCLEaHEAVY WHITE CIRCLEaVERY HEAVY WHITE CIRCLEaEXTREMELY HEAVY WHITE CIRCLE",
    "aWHITE CIRCLE CONTAINING BLACK SMALL CIRCLEaROUND TARGETaBLACK TINY SQUAREgSLIGHTLY SMALL SQUAREaLIGHT",
    " WHITE SQUAREaMEDIUM WHITE SQUAREaBOLD WHITE SQUAREaHEAVY WHITE SQUAREaVERY HEAVY WHITE SQUAREaEXTREME",
    "LY HEAVY WHITE SQUAREaWHITE SQUARE CONTAINING BLACK VERY SMALL SQUAREzfMEDIUM SQUAREaSQUARE TARGETaBLA",
    "CK TINY DIAMONDgVERY SMALL DIAMONDgMEDIUM SMALL DIAMONDaWHITE DIAMOND CONTAINING BLACK VERY SMALL DIAM",
    "ONDzgMEDIUM DIAMONDaDIAMOND TARGETaBLACK TINY LOZENGEgVERY SMALL LOZENGEgMEDIUM SMALL LOZENGEaWHITE LO",
    "ZENGE CONTAINING BLACK SMALL LOZENGEaTHIN GREEK CROSSaLIGHT GREEK CROSSaMEDIUM GREEK CROSSaBOLD GREEK ",
    "CROSSaVERY BOLD GREEK CROSSfHEAVY GREEK CROSSaEXTREMELY HEAVY GREEK CROSSaTHIN SALTIREaLIGHT SALTIREaM",
    "EDIUM SALTIREaBOLD SALTIREaHEAVY SALTIREaVERY HEAVY SALTIREaEXTREMELY HEAVY SALTIREaLIGHT FIVE SPOKED ",
    "ASTERISKaMEDIUM FIVE SPOKED ASTERISKaBOLD FIVE SPOKED ASTERISKaHEAVY FIVE SPOKED ASTERISKaVERY HEAVY F",
    "IVE SPOKED ASTERISKaEXTREMELY HEAVY FIVE SPOKED ASTERISKaLIGHT SIX SPOKED ASTERISKaMEDIUM SIX SPOKED A",
    "STERISKaBOLD SIX SPOKED ASTERISKaHEAVY SIX SPOKED ASTERISKaVERY HEAVY SIX SPOKED ASTERISKaEXTREMELY HE",
    "AVY SIX SPOKED ASTERISKaLIGHT EIGHT SPOKED ASTERISKaMEDIUM EIGHT SPOKED ASTERISKaBOLD EIGHT SPOKED AST",
    "ERISKaHEAVY EIGHT SPOKED ASTERISKaVERY HEAVY EIGHT SPOKED ASTERISKaLIGHT THREE POINTED BLACK STARaMEDI",
    "UM THREE POINTED BLACK STARaTHREE POINTED BLACK STARaMEDIUM THREE POINTED PINWHEEL STARaLIGHT FOUR POI",
    "NTED BLACK STARaMEDIUM FOUR POINTED BLACK STARaFOUR POINTED BLACK STARaMEDIUM FOUR POINTED PINWHEEL ST",
    "ARaREVERSE LIGHT FOUR POINTED PINWHEEL STARaLIGHT FIVE POINTED BLACK STARaHEAVY FIVE POINTED BLACK STA",
    "RaMEDIUM SIX POINTED BLACK STARaHEAVY SIX POINTED BLACK STARaSIX POINTED PINWHEEL STARaMEDIUM EIGHT PO",
    "INTED BLACK STARaHEAVY EIGHT POINTED BLACK STARaVERY HEAVY EIGHT POINTED BLACK STARaHEAVY EIGHT POINTE",
    "D PINWHEEL STARaLIGHT TWELVE POINTED BLACK STARaHEAVY TWELVE POINTED BLACK STARvPINWHEEL STARaCIRCLED ",
    "TRIANGLEaNEGATIVE CIRCLED TRIANGLEaCIRCLED SQUAREaNEGATIVE CIRCLED SQUARE???????aLARGE ORANGE CIRCLEgY",
    "ELLOW CIRCLEgGREEN CIRCLEgPURPLE CIRCLEgBROWN CIRCLEgRED SQUAREgBLUE SQUAREgORANGE SQUAREgYELLOW SQUAR",
    "EgGREEN SQUAREgPURPLE SQUAREgBROWN SQUARE????aHEAVY EQUALS SIGN"]),
  (0x1F800, ["aLEFTWARDS ARROW WITH SMALL TRIANGLE ARROWHEADaUPWARDS ARROW WITH SMALL TRIANGLE ARROWHEADaRIG",
    "HTWARDS ARROW WITH SMALL TRIANGLE ARROWHEADaDOWNWARDS ARROW WITH SMALL TRIANGLE ARROWHEADaLEFTWARDS AR",
    "ROW WITH MEDIUM TRIANGLE ARROWHEADaUPWARDS ARROW WITH MEDIUM TRIANGLE ARROWHEADaRIGHTWARDS ARROW WITH ",
    "MEDIUM TRIANGLE ARROWHEADaDOWNWARDS ARROW WITH MEDIUM TRIANGLE ARROWHEADaLEFTWARDS ARROW WITH LARGE TR",
    "IANGLE ARROWHEADaUPWARDS ARROW WITH LARGE TRIANGLE ARROWHEADaRIGHTWARDS ARROW WITH LARGE TRIANGLE ARRO",
    "WHEADaDOWNWARDS ARROW WITH LARGE TRIANGLE ARROWHEAD????aLEFTWARDS ARROW WITH SMALL EQUILATERAL ARROWHE",
    "ADaUPWARDS ARROW WITH SMALL EQUILATERAL ARROWHEADaRIGHTWARDS ARROW WITH SMALL EQUILATERAL ARROWHEADaDO",
    "WNWARDS ARROW WITH SMALL EQUILATERAL ARROWHEADaLEFTWARDS ARROW WITH EQUILATERAL ARROWHEADaUPWARDS ARRO",
    "W WITH EQUILATERAL ARROWHEADaRIGHTWARDS ARROW WITH EQUILATERAL ARROWHEADaDOWNWARDS ARROW WITH EQUILATE",
    "RAL ARROWHEADaHEAVY LEFTWARDS ARROW WITH EQUILATERAL ARROWHEADgUPWARDS ARROW WITH EQUILATERAL ARROWHEA",
    "DgRIGHTWARDS ARROW WITH EQUILATERAL ARROWHEADgDOWNWARDS ARROW WITH EQUILATERAL ARROWHEADgLEFTWARDS ARR",
    "OW WITH LARGE EQUILATERAL ARROWHEADgUPWARDS ARROW WITH LARGE EQUILATERAL ARROWHEADgRIGHTWARDS ARROW WI",
    "TH LARGE EQUILATERAL ARROWHEADgDOWNWARDS ARROW WITH LARGE EQUILATERAL ARROWHEADaLEFTWARDS TRIANGLE-HEA",
    "DED ARROW WITH NARROW SHAFTaUPWARDS TRIANGLE-HEADED ARROW WITH NARROW SHAFTaRIGHTWARDS TRIANGLE-HEADED",
    " ARROW WITH NARROW SHAFTaDOWNWARDS TRIANGLE-HEADED ARROW WITH NARROW SHAFTaLEFTWARDS TRIANGLE-HEADED A",
    "RROW WITH MEDIUM SHAFTaUPWARDS TRIANGLE-HEADED ARROW WITH MEDIUM SHAFTaRIGHTWARDS TRIANGLE-HEADED ARRO",
    "W WITH MEDIUM SHAFTaDOWNWARDS TRIANGLE-HEADED ARROW WITH MEDIUM SHAFTaLEFTWARDS TRIANGLE-HEADED ARROW ",
    "WITH BOLD SHAFTaUPWARDS TRIANGLE-HEADED ARROW WITH BOLD SHAFTaRIGHTWARDS TRIANGLE-HEADED ARROW WITH BO",
    "LD SHAFTaDOWNWARDS TRIANGLE-HEADED ARROW WITH BOLD SHAFTaLEFTWARDS TRIANGLE-HEADED ARROW WITH HEAVY SH",
    "AFTaUPWARDS TRIANGLE-HEADED ARROW WITH HEAVY SHAFTaRIGHTWARDS TRIANGLE-HEADED ARROW WITH HEAVY SHAFTaD",
    "OWNWARDS TRIANGLE-HEADED ARROW WITH HEAVY SHAFTaLEFTWARDS TRIANGLE-HEADED ARROW WITH VERY HEAVY SHAFTa",
    "UPWARDS TRIANGLE-HEADED ARROW WITH VERY HEAVY SHAFTaRIGHTWARDS TRIANGLE-HEADED ARROW WITH VERY HEAVY S",
    "HAFTaDOWNWARDS TRIANGLE-HEADED ARROW WITH VERY HEAVY SHAFTaLEFTWARDS FINGER-POST ARROWaUPWARDS FINGER-",
    "POST ARROWaRIGHTWARDS FINGER-POST ARROWaDOWNWARDS FINGER-POST ARROWaLEFTWARDS SQUARED ARROWaUPWARDS SQ",
    "UARED ARROWaRIGHTWARDS SQUARED ARROWaDOWNWARDS SQUARED ARROWaLEFTWARDS COMPRESSED ARROWaUPWARDS COMPRE",
    "SSED ARROWaRIGHTWARDS COMPRESSED ARROWaDOWNWARDS COMPRESSED ARROWaLEFTWARDS HEAVY COMPRESSED ARROWaUPW",
    "ARDS HEAVY COMPRESSED ARROWaRIGHTWARDS HEAVY COMPRESSED ARROWaDOWNWARDS HEAVY COMPRESSED ARROWaLEFTWAR",
    "DS HEAVY ARROWaUPWARDS HEAVY ARROWaRIGHTWARDS HEAVY ARROWaDOWNWARDS HEAVY ARROW"]),
  (0x1F850, ["aLEFTWARDS SANS-SERIF ARROWaUPWARDS SANS-SERIF ARROWaRIGHTWARDS SANS-SERIF ARROWaDOWNWARDS SAN",
    "S-SERIF ARROWaNORTH WEST SANS-SERIF ARROWgEAST SANS-SERIF ARROWaSOUTH EAST SANS-SERIF ARROWgWEST SANS-",
    "SERIF ARROWaLEFT RIGHT SANS-SERIF ARROWaUP DOWN SANS-SERIF ARROW??????aWIDE-HEADED LEFTWARDS LIGHT BAR",
    "B ARROWmUPWARDS LIGHT BARB ARROWmRIGHTWARDS LIGHT BARB ARROWmDOWNWARDS LIGHT BARB ARROWmNORTH WEST LIG",
    "HT BARB ARROWsEAST LIGHT BARB ARROWmSOUTH EAST LIGHT BARB ARROWsWEST LIGHT BARB ARROWmLEFTWARDS BARB A",
    "RROWmUPWARDS BARB ARROWmRIGHTWARDS BARB ARROWmDOWNWARDS BARB ARROWmNORTH WEST BARB ARROWsEAST BARB ARR",
    "OWmSOUTH EAST BARB ARROWsWEST BARB ARROWmLEFTWARDS MEDIUM BARB ARROWmUPWARDS MEDIUM BARB ARROWmRIGHTWA",
    "RDS MEDIUM BARB ARROWmDOWNWARDS MEDIUM BARB ARROWmNORTH WEST MEDIUM BARB ARROWsEAST MEDIUM BARB ARROWm",
    "SOUTH EAST MEDIUM BARB ARROWsWEST MEDIUM BARB ARROWmLEFTWARDS HEAVY BARB ARROWmUPWARDS HEAVY BARB ARRO",
    "WmRIGHTWARDS HEAVY BARB ARROWmDOWNWARDS HEAVY BARB ARROWmNORTH WEST HEAVY BARB ARROWsEAST HEAVY BARB A",
    "RROWmSOUTH EAST HEAVY BARB ARROWsWEST HEAVY BARB ARROWmLEFTWARDS VERY HEAVY BARB ARROWmUPWARDS VERY HE",
    "AVY BARB ARROWmRIGHTWARDS VERY HEAVY BARB ARROWmDOWNWARDS VERY HEAVY BARB ARROWmNORTH WEST VERY HEAVY ",
    "BARB ARROWsEAST VERY HEAVY BARB ARROWmSOUTH EAST VERY HEAVY BARB ARROWsWEST VERY HEAVY BARB ARROW"]),
  (0x1F890, ["aLEFTWARDS TRIANGLE ARROWHEADaUPWARDS TRIANGLE ARROWHEADaRIGHTWARDS TRIANGLE ARROWHEADaDOWNWAR",
    "DS TRIANGLE ARROWHEADaLEFTWARDS WHITE ARROW WITHIN TRIANGLE ARROWHEADaUPWARDS WHITE ARROW WITHIN TRIAN",
    "GLE ARROWHEADaRIGHTWARDS WHITE ARROW WITHIN TRIANGLE ARROWHEADaDOWNWARDS WHITE ARROW WITHIN TRIANGLE A",
    "RROWHEADaLEFTWARDS ARROW WITH NOTCHED TAILaUPWARDS ARROW WITH NOTCHED TAILaRIGHTWARDS ARROW WITH NOTCH",
    "ED TAILaDOWNWARDS ARROW WITH NOTCHED TAILaHEAVY ARROW SHAFT WIDTH ONEyTWO THIRDSyONE HALFzdTHIRDaLEFTW",
    "ARDS BOTTOM-SHADED WHITE ARROWaRIGHTWARDS BOTTOM SHADED WHITE ARROWaLEFTWARDS TOP SHADED WHITE ARROWaR",
    "IGHTWARDS TOP SHADED WHITE ARROWaLEFTWARDS LEFT-SHADED WHITE ARROWaRIGHTWARDS RIGHT-SHADED WHITE ARROW",
    "aLEFTWARDS RIGHT-SHADED WHITE ARROWaRIGHTWARDS LEFT-SHADED WHITE ARROWaLEFTWARDS BACK-TILTED SHADOWED ",
    "WHITE ARROWaRIGHTWARDS BACK-TILTED SHADOWED WHITE ARROWaLEFTWARDS FRONT-TILTED SHADOWED WHITE ARROWaRI",
    "GHTWARDS FRONT-TILTED SHADOWED WHITE ARROWaWHITE ARROW SHAFT WIDTH ONEyTWO THIRDS??aARROW POINTING UPW",
    "ARDS THEN NORTH WESTpRIGHTWARDS THEN CURVING SOUTH WEST"]),
  (0x1F900, ["aCIRCLED CROSS FORMEE WITH FOUR DOTSzbTWO DOTStEaLEFT HALF CIRCLE WITH FOUR DOTSwTHREE DOTSxWO",
    " DOTSwDOTpEaDOWNWARD FACING HOOKqNOTCHED HOOKqHOOK WITH DOTqNOTCHED HOOK WITH DOTaPINCHED FINGERSaWHIT",
    "E HEARTaBROWN HEARTaPINCHING HANDaZIPPER-MOUTH FACEaMONEY-MOUTH FACEaFACE WITH THERMOMETERaNERD FACEaT",
    "HINKING FACEaFACE WITH HEAD-BANDAGEaROBOT FACEaHUGGING FACEaSIGN OF THE HORNSaCALL ME HANDaRAISED BACK",
    " OF HANDaLEFT-FACING FISTaRIGHT-FACING FISTaHANDSHAKEe WITH INDEX AND MIDDLE FINGERS CROSSEDaI LOVE YO",
    "U HAND SIGNaFACE WITH COWBOY HATaCLOWN FACEaNAUSEATED FACEaROLLING ON THE FLOOR LAUGHINGaDROOLING FACE",
    "aLYING FACEaFACE PALMaSNEEZING FACEaFACE WITH ONE EYEBROW RAISEDaGRINNING FACE WITH STAR EYEStONE LARG",
    "E AND ONE SMALL EYEaFACE WITH FINGER COVERING CLOSED LIPSaSERIOUS FACE WITH SYMBOLS COVERING MOUTHbMIL",
    "ING FACE WITH SMILING EYES AND HAND COVERING MOUTHaFACE WITH OPEN MOUTH VOMITINGaSHOCKED FACE WITH EXP",
    "LODING HEADaPREGNANT WOMANaBREAST-FEEDINGaPALMS UP TOGETHERaSELFIEaPRINCEaMAN IN TUXEDObOTHER CHRISTMA",
    "SaSHRUGaPERSON DOING CARTWHEELaJUGGLINGaFENCERaMODERN PENTATHLONaWRESTLERSbATER POLOaHANDBALLaDIVING M",
    "ASKaWILTED FLOWERaDRUM WITH DRUMSTICKSaCLINKING GLASSESaTUMBLER GLASSaSPOONaGOAL NETaRIFLEaFIRST PLACE",
    " MEDALaSECOND PLACE MEDALaTHIRD PLACE MEDALaBOXING GLOVEaMARTIAL ARTS UNIFORMaCURLING STONEaLACROSSE S",
    "TICK AND BALLaSOFTBALLaFLYING DISCaCROISSANTaAVOCADOaCUCUMBERaBACONaPOTATOaCARROTaBAGUETTE BREADaGREEN",
    " SALADaSHALLOW PAN OF FOODbTUFFED FLATBREADaEGGaGLASS OF MILKaPEANUTSaKIWIFRUITaPANCAKESaDUMPLINGaFORT",
    "UNE COOKIEaTAKEOUT BOXaCHOPSTICKSaBOWL WITH SPOONaCUP WITH STRAWbOCONUTaBROCCOLIaPIEbRETZELaCUT OF MEA",
    "TaSANDWICHaCANNED FOODaLEAFY GREENaMANGObOON CAKEaBAGELaSMILING FACE WITH SMILING EYES AND THREE HEART",
    "SaYAWNING FACEaSMILING FACE WITH TEARaFACE WITH PARTY HORN AND PARTY HATkUNEVEN EYES AND WAVY MOUTHaOV",
    "ERHEATED FACEaFREEZING FACEaNINJAaDISGUISED FACEaFACE HOLDING BACK TEARSfWITH PLEADING EYESaSARIaLAB C",
    "OATaGOGGLESaHIKING BOOTaFLAT SHOEaCRABaLION FACEaSCORPIONaTURKEYaUNICORN FACEaEAGLEaDUCKaBATaSHARKaOWL",
    "aFOX FACEaBUTTERFLYaDEERaGORILLAaLIZARDaRHINOCEROSaSHRIMPbQUIDaGIRAFFE FACEaZEBRA FACEaHEDGEHOGaSAUROP",
    "ODaT-REXaCRICKETaKANGAROOaLLAMAaPEACOCKaHIPPOPOTAMUSaPARROTaRACCOONaLOBSTERaMOSQUITObICROBEaBADGERaSWA",
    "NaMAMMOTHaDODOaSLOTHaOTTERbRANGUTANaSKUNKaFLAMINGOaOYSTERaBEAVERbISONaSEALaGUIDE DOGaPROBING CANEaEMOJ",
    "I COMPONENT RED HAIRqCURLY HAIRqBALDqWHITE HAIRaBONEaLEGaFOOTaTOOTHaSUPERHEROfVILLAINbAFETY VESTaEAR W",
    "ITH HEARING AIDaMOTORIZED WHEELCHAIRbANUAL WHEELCHAIRbECHANICAL ARMlLEGaCHEESE WEDGEbUPCAKEaSALT SHAKE",
    "RaBEVERAGE BOXaGARLICaONIONaFALAFELaWAFFLEaBUTTERaMATE DRINKaICE CUBEaBUBBLE TEAaTROLLaSTANDING PERSON",
    "aKNEELING PERSONaDEAF PERSONaFACE WITH MONOCLEaADULTaCHILDaOLDER ADULTaBEARDED PERSONaPERSON WITH HEAD",
    "SCARFhIN STEAMY ROOMhCLIMBINGhIN LOTUS POSITIONaMAGEaFAIRYaVAMPIREaMERPERSONaELFaGENIEaZOMBIEaBRAINaOR",
    "ANGE HEARTaBILLED CAPaSCARFaGLOVESaCOATaSOCKSaRED GIFT ENVELOPEaFIRECRACKERaJIGSAW PUZZLE PIECEaTEST T",
    "UBEaPETRI DISHaDNA DOUBLE HELIXaCOMPASSaABACUSaFIRE EXTINGUISHERaTOOLBOXaBRICKaMAGNETaLUGGAGEbOTION BO",
    "TTLEaSPOOL OF THREADaBALL OF YARNaSAFETY PINaTEDDY BEARaBROOMbASKETaROLL OF PAPERaBAR OF SOAPaSPONGEaR",
    "ECEIPTaNAZAR AMULETbEUTRAL CHESS KINGoQUEENoROOKoBISHOPoKNIGHToPAWNaWHITE CHESS KNIGHT ROTATED FORTY-F",
    "IVE DEGREESaBLACK CHESS KNIGHT ROTATED FORTY-FIVE DEGREESaNEUTRAL CHESS KNIGHT ROTATED FORTY-FIVE DEGR",
    "EESaWHITE CHESS KING ROTATED NINETY DEGREESmQUEEN ROTATED NINETY DEGREESmROOK ROTATED NINETY DEGREESmB",
    "ISHOP ROTATED NINETY DEGREESmKNIGHT ROTATED NINETY DEGREESmPAWN ROTATED NINETY DEGREESaBLACK CHESS KIN",
    "G ROTATED NINETY DEGREESmQUEEN ROTATED NINETY DEGREESmROOK ROTATED NINETY DEGREESmBISHOP ROTATED NINET",
    "Y DEGREESmKNIGHT ROTATED NINETY DEGREESmPAWN ROTATED NINETY DEGREESaNEUTRAL CHESS KING ROTATED NINETY ",
    "DEGREESoQUEEN ROTATED NINETY DEGREESoROOK ROTATED NINETY DEGREESoBISHOP ROTATED NINETY DEGREESoKNIGHT ",
    "ROTATED NINETY DEGREESoPAWN ROTATED NINETY DEGREESaWHITE CHESS KNIGHT ROTATED ONE HUNDRED THIRTY-FIVE ",
    "DEGREESaBLACK CHESS KNIGHT ROTATED ONE HUNDRED THIRTY-FIVE DEGREESaNEUTRAL CHESS KNIGHT ROTATED ONE HU",
    "NDRED THIRTY-FIVE DEGREESaWHITE CHESS TURNED KINGtQUEENtROOKtBISHOPtKNIGHTtPAWNaBLACK CHESS TURNED KIN",
    "GtQUEENtROOKtBISHOPtKNIGHTtPAWNaNEUTRAL CHESS TURNED KINGvQUEENvROOKvBISHOPvKNIGHTvPAWNaWHITE CHESS KN",
    "IGHT ROTATED TWO HUNDRED TWENTY-FIVE DEGREESaBLACK CHESS KNIGHT ROTATED TWO HUNDRED TWENTY-FIVE DEGREE",
    "SaNEUTRAL CHESS KNIGHT ROTATED TWO HUNDRED TWENTY-FIVE DEGREESaWHITE CHESS KING ROTATED TWO HUNDRED SE",
    "VENTY DEGREESmQUEEN ROTATED TWO HUNDRED SEVENTY DEGREESmROOK ROTATED TWO HUNDRED SEVENTY DEGREESmBISHO",
    "P ROTATED TWO HUNDRED SEVENTY DEGREESmKNIGHT ROTATED TWO HUNDRED SEVENTY DEGREESmPAWN ROTATED TWO HUND",
    "RED SEVENTY DEGREESaBLACK CHESS KING ROTATED TWO HUNDRED SEVENTY DEGREESmQUEEN ROTATED TWO HUNDRED SEV",
    "ENTY DEGREESmROOK ROTATED TWO HUNDRED SEVENTY DEGREESmBISHOP ROTATED TWO HUNDRED SEVENTY DEGREESmKNIGH",
    "T ROTATED TWO HUNDRED SEVENTY DEGREESmPAWN ROTATED TWO HUNDRED SEVENTY DEGREESaNEUTRAL CHESS KING ROTA",
    "TED TWO HUNDRED SEVENTY DEGREESoQUEEN ROTATED TWO HUNDRED SEVENTY DEGREESoROOK ROTATED TWO HUNDRED SEV",
    "ENTY DEGREESoBISHOP ROTATED TWO HUNDRED SEVENTY DEGREESoKNIGHT ROTATED TWO HUNDRED SEVENTY DEGREESoPAW",
    "N ROTATED TWO HUNDRED SEVENTY DEGREESaWHITE CHESS KNIGHT ROTATED THREE HUNDRED FIFTEEN DEGREESaBLACK C",
    "HESS KNIGHT ROTATED THREE HUNDRED FIFTEEN DEGREESaNEUTRAL CHESS KNIGHT ROTATED THREE HUNDRED FIFTEEN D",
    "EGREESaWHITE CHESS EQUIHOPPERaBLACK CHESS EQUIHOPPERaNEUTRAL CHESS EQUIHOPPERaWHITE CHESS EQUIHOPPER R",
    "OTATED NINETY DEGREESaBLACK CHESS EQUIHOPPER ROTATED NINETY DEGREESaNEUTRAL CHESS EQUIHOPPER ROTATED N",
    "INETY DEGREESaWHITE CHESS KNIGHT-QUEENtROOKtBISHOPaBLACK CHESS KNIGHT-QUEENtROOKtBISHOP"]),
  (0x1FA60, ["aXIANGQI RED GENERALmMANDARINmELEPHANTmHORSEmCHARIOTnANNONmSOLDIERiBLACK GENERALoMANDARINoELEP",
    "HANToHORSEoCHARIOTpANNONoSOLDIER??aBALLET SHOESaONE-PIECE SWIMSUITaBRIEFSaSHORTSaTHONG SANDAL???aDROP ",
    "OF BLOODaADHESIVE BANDAGEaSTETHOSCOPEaX-RAYaCRUTCH???aYO-YOaKITEaPARACHUTEaBOOMERANGaMAGIC WANDaPINATA",
    "aNESTING DOLLS"]),
  (0x1FA90, ["aRINGED PLANETaCHAIRaRAZORaAXEaDIYA LAMPaBANJOaMILITARY HELMETaACCORDIONaLONG DRUMaCOINbARPENT",
    "RY SAWaSCREWDRIVERaLADDERaHOOKaMIRRORaWINDOWaPLUNGERaSEWING NEEDLEaKNOTaBUCKETaMOUSE TRAPaTOOTHBRUSHaH",
    "EADSTONEaPLACARDaROCKaMIRROR BALLaIDENTIFICATION CARDaLOW BATTERYaHAMSA???aFLYaWORMaBEETLEaCOCKROACHaP",
    "OTTED PLANTaWOODaFEATHERaLOTUSaCORALaEMPTY NESTaNEST WITH EGGS?????aANATOMICAL HEARTaLUNGSaPEOPLE HUGG",
    "INGbREGNANT MANjPERSONbERSON WITH CROWN"]),
  (0x1FAD0, ["aBLUEBERRIESbELL PEPPERaOLIVEaFLATBREADaTAMALEaFONDUEaTEAPOTaPOURING LIQUIDaBEANSaJAR??????aME",
    "LTING FACEaSALUTING FACEaFACE WITH OPEN EYES AND HAND OVER MOUTHkPEEKING EYEkDIAGONAL MOUTHaDOTTED LIN",
    "E FACEaBITING LIPbUBBLES"]),
  (0x1FAF0, ["aHAND WITH INDEX FINGER AND THUMB CROSSEDaRIGHTWARDS HANDaLEFTWARDS HANDaPALM DOWN HANDfUP HAN",
    "DaINDEX POINTING AT THE VIEWERaHEART HANDS"]),
  (0x1FB00, ["aBLOCK SEXTANT-1o2o12o3o13o23o123o4o14o24o124o34o134o234o1234o5o15o25o125o35o235o1235o45o145o2",
    "45o1245o345o1345o2345o12345o6o16o26o126o36o136o236o1236o46o146p246o346o1346o2346o12346o56o156o256o1256",
    "o356o1356o2356o12356o456o1456o2456o12456o3456o13456o23456aLOWER LEFT BLOCK DIAGONAL LOWER MIDDLE LEFT ",
    "TO LOWER CENTREzzdRIGHTzbUPPER MIDDLE LEFT TO LOWER CENTREzzdRIGHTzhLEFT TO LOWER CENTREgRIGHT BLOCK D",
    "IAGONAL UPPER MIDDLE LEFT TO UPPER CENTREzzeRIGHTzcLOWER MIDDLE LEFT TO UPPER CENTREzzeRIGHTziLEFT TO ",
    "UPPER CENTREziMIDDLE LEFT TO UPPER MIDDLE RIGHTziCENTRE TO LOWER MIDDLE RIGHTziLEFT TO LOWER MIDDLE RI",
    "GHTziCENTRE TO UPPER MIDDLE RIGHTziLEFT TO UPPER MIDDLE RIGHTziCENTRE TO UPPER RIGHTgLEFT BLOCK DIAGON",
    "AL UPPER CENTRE TO UPPER MIDDLE RIGHTzhLEFT TO UPPER MIDDLE RIGHTzhCENTRE TO LOWER MIDDLE RIGHTzhLEFT ",
    "TO LOWER MIDDLE RIGHTzhCENTRE TO LOWER RIGHTzhMIDDLE LEFT TO LOWER MIDDLE RIGHTaUPPER RIGHT BLOCK DIAG",
    "ONAL LOWER MIDDLE LEFT TO LOWER CENTREzzeRIGHTzcUPPER MIDDLE LEFT TO LOWER CENTREzzeRIGHTziLEFT TO LOW",
    "ER CENTREgLEFT BLOCK DIAGONAL UPPER MIDDLE LEFT TO UPPER CENTREzzdRIGHTzbLOWER MIDDLE LEFT TO UPPER CE",
    "NTREzzdRIGHTzhLEFT TO UPPER CENTREzhMIDDLE LEFT TO UPPER MIDDLE RIGHTzhCENTRE TO LOWER MIDDLE RIGHTzhL",
    "EFT TO LOWER MIDDLE RIGHTzhCENTRE TO UPPER MIDDLE RIGHTzhLEFT TO UPPER MIDDLE RIGHTzhCENTRE TO UPPER R",
    "IGHTgRIGHT BLOCK DIAGONAL UPPER CENTRE TO UPPER MIDDLE RIGHTziLEFT TO UPPER MIDDLE RIGHTziCENTRE TO LO",
    "WER MIDDLE RIGHTziLEFT TO LOWER MIDDLE RIGHTziCENTRE TO LOWER RIGHTziMIDDLE LEFT TO LOWER MIDDLE RIGHT",
    "gAND RIGHT AND LOWER TRIANGULAR THREE QUARTERS BLOCKaLEFT AND LOWER AND RIGHT TRIANGULAR THREE QUARTER",
    "S BLOCKaUPPER AND LEFT AND LOWER TRIANGULAR THREE QUARTERS BLOCKaLEFT AND UPPER AND RIGHT TRIANGULAR T",
    "HREE QUARTERS BLOCKfTRIANGULAR ONE QUARTER BLOCKaUPPER TRIANGULAR ONE QUARTER BLOCKaRIGHT TRIANGULAR O",
    "NE QUARTER BLOCKaLOWER TRIANGULAR ONE QUARTER BLOCKaVERTICAL ONE EIGHTH BLOCK-2zb3zb4zb5zb6zb7aHORIZON",
    "TAL ONE EIGHTH BLOCK-2zd3zd4zd5zd6zd7aLEFT AND LOWER ONE EIGHTH BLOCKjUPPER ONE EIGHTH BLOCKaRIGHT AND",
    " UPPER ONE EIGHTH BLOCKkLOWER ONE EIGHTH BLOCKaUPPER AND LOWER ONE EIGHTH BLOCKaHORIZONTAL ONE EIGHTH ",
    "BLOCK-1358aUPPER ONE QUARTER BLOCKgTHREE EIGHTHS BLOCKgFIVE EIGHTHS BLOCKgTHREE QUARTERS BLOCKgSEVEN E",
    "IGHTHS BLOCKaRIGHT ONE QUARTER BLOCKgTHREE EIGHTHS BLOCKgFIVE EIGHTHS BLOCKgTHREE QUARTERS BLOCKgSEVEN",
    " EIGHTHS BLOCKaLEFT HALF MEDIUM SHADEaRIGHT HALF MEDIUM SHADEaUPPER HALF MEDIUM SHADEaLOWER HALF MEDIU",
    "M SHADEaINVERSE MEDIUM SHADEaUPPER HALF BLOCK AND LOWER HALF INVERSE MEDIUM SHADElINVERSE MEDIUM SHADE",
    " AND LOWER HALF BLOCK?aLEFT HALF INVERSE MEDIUM SHADE AND RIGHT HALF BLOCKaCHECKER BOARD FILLaINVERSE ",
    "CHECKER BOARD FILLaHEAVY HORIZONTAL FILLaUPPER LEFT TO LOWER RIGHT FILLgRIGHT TO LOWER LEFT FILLgAND L",
    "OWER TRIANGULAR HALF BLOCKaLEFT AND RIGHT TRIANGULAR HALF BLOCKaUPPER LEFT TRIANGULAR MEDIUM SHADEgRIG",
    "HT TRIANGULAR MEDIUM SHADEaLOWER RIGHT TRIANGULAR MEDIUM SHADEgLEFT TRIANGULAR MEDIUM SHADEaBOX DRAWIN",
    "GS LIGHT DIAGONAL UPPER CENTRE TO MIDDLE LEFTzzbRIGHTzdMIDDLE LEFT TO LOWER CENTREzkRIGHT TO LOWER CEN",
    "TREzdUPPER CENTRE TO MIDDLE LEFT TO LOWER CENTREzzbRIGHT TO LOWER CENTREzdMIDDLE LEFT TO LOWER CENTRE ",
    "TO MIDDLE RIGHTzsUPPER CENTRE TO MIDDLE RIGHTzdUPPER CENTRE TO MIDDLE LEFT AND MIDDLE RIGHT TO LOWER C",
    "ENTREzzbRIGHT AND MIDDLE LEFT TO LOWER CENTREzzhTO LOWER CENTRE TO MIDDLE LEFTzzbLEFT TO LOWER CENTRE ",
    "TO MIDDLE RIGHTzdMIDDLE LEFT TO UPPER CENTRE TO MIDDLE RIGHT TO LOWER CENTREzkRIGHT TO UPPER CENTRE TO",
    " MIDDLE LEFT TO LOWER CENTREzdDIAMONDtHORIZONTAL WITH VERTICAL STROKEaARROWHEAD-SHAPED POINTERaINVERSE",
    " CHECK MARKaLEFT HALF RUNNING MANaRIGHT HALF RUNNING MANaINVERSE DOWNWARDS ARROW WITH TIP LEFTWARDSaLE",
    "FTWARDS ARROW AND UPPER AND LOWER ONE EIGHTH BLOCKaRIGHTWARDS ARROW AND UPPER AND LOWER ONE EIGHTH BLO",
    "CKaDOWNWARDS ARROW AND RIGHT ONE EIGHTH BLOCKaUPWARDS ARROW AND RIGHT ONE EIGHTH BLOCKaLEFT HALF FOLDE",
    "RaRIGHT HALF FOLDERaVOIDED GREEK CROSSaRIGHT OPEN SQUARED DOTaNEGATIVE DIAGONAL CROSSsMIDDLE RIGHT TO ",
    "LOWER CENTREsDIAMONDaWHITE HEAVY SALTIRE WITH ROUNDED CORNERSaLEFT THIRD WHITE RIGHT POINTING INDEXaMI",
    "DDLE THIRD WHITE RIGHT POINTING INDEXaRIGHT THIRD WHITE RIGHT POINTING INDEXaNEGATIVE SQUARED QUESTION",
    " MARKaSTICK FIGUREm WITH ARMS RAISEDnLEANING LEFTvRIGHTnWITH DRESSaWHITE UP-POINTING CHEVRON"]),
  (0x1FBF0, ["aSEGMENTED DIGIT ZEROqONEqTWOrHREEqFOURrIVEqSIXrEVENqEIGHTqNINE"]),
  (0xE0001, ["aLANGUAGE TAG"]),
  (0xE0020, ["aTAG SPACEeEXCLAMATION MARKeQUOTATION MARKeNUMBER SIGNeDOLLAR SIGNePERCENT SIGNeAMPERSANDfPOST",
    "ROPHEeLEFT PARENTHESISeRIGHT PARENTHESISeASTERISKePLUS SIGNeCOMMAeHYPHEN-MINUSeFULL STOPeSOLIDUSeDIGIT",
    " ZEROkONEkTWOlHREEkFOURlIVEkSIXlEVENkEIGHTkNINEeCOLONeSEMICOLONeLESS-THAN SIGNeEQUALS SIGNeGREATER-THA",
    "N SIGNeQUESTION MARKeCOMMERCIAL ATeLATIN CAPITAL LETTER AzaBzaCzaDzaEzaFzaGzaHzaIzaJzaKzaLzaMzaNzaOzaP",
    "zaQzaRzaSzaTzaUzaVzaWzaXzaYzaZfEFT SQUARE BRACKETeREVERSE SOLIDUSfIGHT SQUARE BRACKETeCIRCUMFLEX ACCEN",
    "TeLOW LINEeGRAVE ACCENTeLATIN SMALL LETTER AxBxCxDxExFxGxHxIxJxKxLxMxNxOxPxQxRxSxTxUxVxWxXxYxZfEFT CUR",
    "LY BRACKETeVERTICAL LINEeRIGHT CURLY BRACKETeTILDEaCANCEL TAG"]),
  (0xE0100, ["aVARIATION SELECTOR-17u8u9t20u1u2u3u4u5u6u7u8u9t30u1u2u3u4u5u6u7u8u9t40u1u2u3u4u5u6u7u8u9t50u1",
    "u2u3u4u5u6u7u8u9t60u1u2u3u4u5u6u7u8u9t70u1u2u3u4u5u6u7u8u9t80u1u2u3u4u5u6u7u8u9t90u1u2u3u4u5u6u7u8u9t1",
    "00v1v2v3v4v5v6v7v8v9u10v1v2v3v4v5v6v7v8v9u20v1v2v3v4v5v6v7v8v9u30v1v2v3v4v5v6v7v8v9u40v1v2v3v4v5v6v7v8",
    "v9u50v1v2v3v4v5v6v7v8v9u60v1v2v3v4v5v6v7v8v9u70v1v2v3v4v5v6v7v8v9u80v1v2v3v4v5v6v7v8v9u90v1v2v3v4v5v6v",
    "7v8v9t200v1v2v3v4v5v6v7v8v9u10v1v2v3v4v5v6v7v8v9u20v1v2v3v4v5v6v7v8v9u30v1v2v3v4v5v6v7v8v9u40v1v2v3v4v",
    "5v6v7v8v9u50v1v2v3v4v5v6"])]

end CharacterName

end Text

end CodeBehind
