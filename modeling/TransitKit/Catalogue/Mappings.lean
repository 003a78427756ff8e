import TransitKit.Json.Reader

/-! # Bundled type mappings

The document that renames the schemas of each TfL API to the names of the generated
models: for every API, its type mappings and, for some, the mappings of its response
types; with the document's version, date and source. It is kept as compact JSON text
with every character outside ASCII escaped. -/

namespace TransitKit.Catalogue

/-- The bundled mappings document, as JSON text. -/
def mappingsText : String :=
  "\x7b\"$schema\":\"../schemas/tfl_mappings_schema.json\",\"version\":\"1.0.0\",\"last_updated\":\"2025-09-28T18:32:38.586085Z\",\"source\":\x7b\"url\":\"https://techforum.tfl.gov.uk/t/swagger-file-outdated/2085/8\",\"descripti" ++
  "on\":\"TfL API type mappings from community forum, modified for response codes and differentiated categories\"\x7d,\"apis\":\x7b\"AccidentStats\":\x7b\"description\":\"TfL accident statistics and casualty data\",\"mapping" ++
  "s\":\x7b\"Tfl-Api-Presentation-Entities-AccidentStats-AccidentDetailArray\":\"Tfl-Api-Presentation-Entities-AccidentStats-AccidentDetailArray\",\"Tfl-Api-Presentation-Entities-AccidentStats-AccidentDetailArray" ++
  "-1\":\"Tfl-Api-Presentation-Entities-AccidentStats-AccidentDetailArray-1\",\"Tfl-Api-Presentation-Entities-AccidentStats-AccidentDetailArray-2\":\"Tfl-Api-Presentation-Entities-AccidentStats-AccidentDetailA" ++
  "rray-2\",\"Tfl-Api-Presentation-Entities-AccidentStats-AccidentDetailArray-3\":\"Tfl-Api-Presentation-Entities-AccidentStats-AccidentDetailArray-3\",\"Tfl.Api.Presentation.Entities.AccidentStats.AccidentDet" ++
  "ail\":\"Tfl.Api.Presentation.Entities.AccidentStats.AccidentDetail\",\"Tfl.Api.Presentation.Entities.AccidentStats.Casualty\":\"Tfl.Api.Presentation.Entities.AccidentStats.Casualty\",\"Tfl.Api.Presentation.En" ++
  "tities.AccidentStats.Vehicle\":\"Tfl.Api.Presentation.Entities.AccidentStats.Vehicle\"\x7d\x7d,\"AirQuality\":\x7b\"description\":\"London air quality forecasts and current data\",\"mappings\":\x7b\"System.Object\":\"Tfl.Api.P" ++
  "resentation.Entities.LondonAirForecast\"\x7d\x7d,\"BikePoint\":\x7b\"description\":\"Santander Cycles docking stations and bike availability\",\"mappings\":\x7b\"Tfl-Api-Presentation-Entities-PlaceArray\":\"PlaceArray\",\"Tfl." ++
  "Api.Presentation.Entities.Place\":\"Tfl.Api.Presentation.Entities.Place\",\"Tfl.Api.Presentation.Entities.AdditionalProperties\":\"Tfl.Api.Presentation.Entities.AdditionalProperties\",\"Tfl-Api-Presentation-E" ++
  "ntities-PlaceArray-1\":\"PlaceArray\",\"Tfl-Api-Presentation-Entities-PlaceArray-2\":\"PlaceArray\",\"Tfl-Api-Presentation-Entities-PlaceArray-3\":\"PlaceArray\",\"Tfl-Api-Presentation-Entities-PlaceArray-4\":\"Pla" ++
  "ceArray\",\"Tfl-Api-Presentation-Entities-PlaceArray-5\":\"PlaceArray\",\"Tfl-Api-Presentation-Entities-PlaceArray-6\":\"PlaceArray\",\"Tfl-Api-Presentation-Entities-PlaceArray-7\":\"PlaceArray\"\x7d\x7d,\"Lift Disruptio" ++
  "ns\":\x7b\"description\":\"Lift and escalator disruption information\",\"mappings\":\x7b\"LiftDisruption\":\"LiftDisruption\"\x7d,\"response_mappings\":\x7b\"Get200ApplicationJsonResponse\":\"LiftDisruptionsArray\"\x7d\x7d,\"Journey\":\x7b\"" ++
  "description\":\"Journey planning and route calculation services\",\"mappings\":\x7b\"Tfl\":\"Tfl.Api.Presentation.Entities.Mode\",\"Tfl-10\":\"Tfl.Api.Presentation.Entities.Identifier\",\"Tfl-11\":\"Tfl.Api.Common.Journ" ++
  "eyPlanner.JpElevation\",\"Tfl-12\":\"Tfl.Api.Presentation.Entities.JourneyPlanner.Path\",\"Tfl-13\":\"Tfl.Api.Presentation.Entities.JourneyPlanner.RouteOption\",\"Tfl-14\":\"Tfl.Api.Presentation.Entities.LineGrou" ++
  "p\",\"Tfl-15\":\"Tfl.Api.Presentation.Entities.LineModeGroup\",\"Tfl-16\":\"Tfl.Api.Presentation.Entities.AdditionalProperties\",\"Tfl-17\":\"Tfl.Api.Presentation.Entities.Place\",\"Tfl-18\":\"Tfl.Api.Presentation.En" ++
  "tities.StopPoint\",\"Tfl-19\":\"Tfl.Api.Presentation.Entities.RouteSectionNaptanEntrySequence\",\"Tfl-2\":\"Tfl.Api.Presentation.Entities.PathAttribute\",\"Tfl-20\":\"Tfl.Api.Presentation.Entities.RouteSection\",\"" ++
  "Tfl-21\":\"Tfl.Api.Presentation.Entities.Disruption\",\"Tfl-22\":\"Tfl.Api.Presentation.Entities.JourneyPlanner.PlannedWork\",\"Tfl-23\":\"Tfl.Api.Presentation.Entities.JourneyPlanner.Leg\",\"Tfl-24\":\"Tfl.Api.Pre" ++
  "sentation.Entities.JourneyPlanner.FareTapDetails\",\"Tfl-25\":\"Tfl.Api.Presentation.Entities.JourneyPlanner.FareTap\",\"Tfl-26\":\"Tfl.Api.Presentation.Entities.JourneyPlanner.Fare\",\"Tfl-27\":\"Tfl.Api.Present" ++
  "ation.Entities.JourneyPlanner.FareCaveat\",\"Tfl-28\":\"Tfl.Api.Presentation.Entities.JourneyPlanner.JourneyFare\",\"Tfl-29\":\"Tfl.Api.Presentation.Entities.JourneyPlanner.Journey\",\"Tfl-3\":\"Tfl.Api.Presentat" ++
  "ion.Entities.InstructionStep\",\"Tfl-30\":\"Tfl.Api.Presentation.Entities.ValidityPeriod\",\"Tfl-31\":\"Tfl.Api.Presentation.Entities.LineStatus\",\"Tfl-32\":\"Tfl.Api.Presentation.Entities.MatchedRoute\",\"Tfl-33\"" ++
  ":\"Tfl.Api.Presentation.Entities.LineServiceTypeInfo\",\"Tfl-34\":\"Tfl.Api.Presentation.Entities.Line\",\"Tfl-35\":\"Tfl.Api.Presentation.Entities.JourneyPlanner.JourneyPlannerCycleHireDockingStationData\",\"Tf" ++
  "l-36\":\"Tfl.Api.Presentation.Entities.JourneyPlanner.TimeAdjustment\",\"Tfl-37\":\"Tfl.Api.Presentation.Entities.JourneyPlanner.TimeAdjustments\",\"Tfl-38\":\"Tfl.Api.Presentation.Entities.JourneyPlanner.Searc" ++
  "hCriteria\",\"Tfl-39\":\"Tfl.Api.Presentation.Entities.JourneyPlanner.JourneyVector\",\"Tfl-4\":\"Tfl.Api.Presentation.Entities.Instruction\",\"Tfl-40\":\"Tfl.Api.Presentation.Entities.JourneyPlanner.ItineraryRes" ++
  "ult\",\"Tfl-5\":\"Tfl.Api.Presentation.Entities.JourneyPlanner.Obstacle\",\"Tfl-6\":\"Tfl.Api.Presentation.Entities.Point\",\"Tfl-7\":\"Tfl.Api.Presentation.Entities.PassengerFlow\",\"Tfl-8\":\"Tfl.Api.Presentation.E" ++
  "ntities.TrainLoading\",\"Tfl-9\":\"Tfl.Api.Presentation.Entities.Crowding\"\x7d,\"response_mappings\":\x7b\"MetaModesGet200ApplicationJsonResponse\":\"ModeArray\",\"MetaModesGet200TextJsonResponse\":\"ModeArray\",\"MetaMod" ++
  "esGet200ApplicationXmlResponse\":\"ModeArray\",\"MetaModesGet200TextXmlResponse\":\"ModeArray\",\"Get200ApplicationJsonResponse\":\"ObjectResponse\"\x7d\x7d,\"Line\":\x7b\"description\":\"Transport line information, status, a" ++
  "nd routes\",\"mappings\":\x7b\"Tfl\":\"Tfl.Api.Presentation.Entities.Mode\",\"Tfl-10\":\"Tfl.Api.Presentation.Entities.Place\",\"Tfl-11\":\"Tfl.Api.Presentation.Entities.StopPoint\",\"Tfl-12\":\"Tfl.Api.Presentation.Entit" ++
  "ies.RouteSectionNaptanEntrySequence\",\"Tfl-13\":\"Tfl.Api.Presentation.Entities.RouteSection\",\"Tfl-14\":\"Tfl.Api.Presentation.Entities.Disruption\",\"Tfl-15\":\"Tfl.Api.Presentation.Entities.ValidityPeriod\",\"" ++
  "Tfl-16\":\"Tfl.Api.Presentation.Entities.LineStatus\",\"Tfl-17\":\"Tfl.Api.Presentation.Entities.MatchedRoute\",\"Tfl-18\":\"Tfl.Api.Presentation.Entities.LineServiceTypeInfo\",\"Tfl-19\":\"Tfl.Api.Presentation.Ent" ++
  "ities.Line\",\"Tfl-2\":\"Tfl.Api.Presentation.Entities.StatusSeverity\",\"Tfl-20\":\"Tfl.Api.Presentation.Entities.MatchedStop\",\"Tfl-21\":\"Tfl.Api.Presentation.Entities.StopPointSequence\",\"Tfl-22\":\"Tfl.Api.Pre" ++
  "sentation.Entities.OrderedRoute\",\"Tfl-23\":\"Tfl.Api.Presentation.Entities.RouteSequence\",\"Tfl-24\":\"Tfl.Api.Presentation.Entities.LineRouteSection\",\"Tfl-25\":\"Tfl.Api.Presentation.Entities.MatchedRouteSe" ++
  "ctions\",\"Tfl-26\":\"Tfl.Api.Presentation.Entities.RouteSearchMatch\",\"Tfl-27\":\"Tfl.Api.Presentation.Entities.RouteSearchResponse\",\"Tfl-28\":\"Tfl.Api.Presentation.Entities.Interval\",\"Tfl-29\":\"Tfl.Api.Prese" ++
  "ntation.Entities.StationInterval\",\"Tfl-3\":\"Tfl.Api.Presentation.Entities.PassengerFlow\",\"Tfl-30\":\"Tfl.Api.Presentation.Entities.KnownJourney\",\"Tfl-31\":\"Tfl.Api.Presentation.Entities.TwentyFourHourCloc" ++
  "kTime\",\"Tfl-32\":\"Tfl.Api.Presentation.Entities.ServiceFrequency\",\"Tfl-33\":\"Tfl.Api.Presentation.Entities.Period\",\"Tfl-34\":\"Tfl.Api.Presentation.Entities.Schedule\",\"Tfl-35\":\"Tfl.Api.Presentation.Entiti" ++
  "es.TimetableRoute\",\"Tfl-36\":\"Tfl.Api.Presentation.Entities.Timetable\",\"Tfl-37\":\"Tfl.Api.Presentation.Entities.Timetables.DisambiguationOption\",\"Tfl-38\":\"Tfl.Api.Presentation.Entities.Timetables.Disamb" ++
  "iguation\",\"Tfl-39\":\"Tfl.Api.Presentation.Entities.TimetableResponse\",\"Tfl-4\":\"Tfl.Api.Presentation.Entities.TrainLoading\",\"Tfl-40\":\"Tfl.Api.Presentation.Entities.PredictionTiming\",\"Tfl-41\":\"Tfl.Api.Pr" ++
  "esentation.Entities.Prediction\",\"Tfl-5\":\"Tfl.Api.Presentation.Entities.Crowding\",\"Tfl-6\":\"Tfl.Api.Presentation.Entities.Identifier\",\"Tfl-7\":\"Tfl.Api.Presentation.Entities.LineGroup\",\"Tfl-8\":\"Tfl.Api.P" ++
  "resentation.Entities.LineModeGroup\",\"Tfl-9\":\"Tfl.Api.Presentation.Entities.AdditionalProperties\"\x7d,\"response_mappings\":\x7b\"MetaModesGet200ApplicationJsonResponse\":\"ModeArray\",\"MetaModesGet200TextJsonResp" ++
  "onse\":\"ModeArray\",\"MetaModesGet200ApplicationXmlResponse\":\"ModeArray\",\"MetaModesGet200TextXmlResponse\":\"ModeArray\",\"Get200ApplicationJsonResponse\":\"ObjectResponse\",\"MetaSeverityGet200ApplicationJsonRe" ++
  "sponse\":\"StatusSeveritiesArray\",\"MetaSeverityGet200TextJsonResponse\":\"StatusSeveritiesArray\",\"MetaSeverityGet200ApplicationXmlResponse\":\"StatusSeveritiesArray\",\"MetaSeverityGet200TextXmlResponse\":\"Sta" ++
  "tusSeveritiesArray\",\"MetaDisruptionCategoriesGet200ApplicationJsonResponse\":\"StringsArray\",\"MetaDisruptionCategoriesGet200TextJsonResponse\":\"StringsArray\",\"MetaDisruptionCategoriesGet200ApplicationXml" ++
  "Response\":\"StringsArray\",\"MetaDisruptionCategoriesGet200TextXmlResponse\":\"StringsArray\",\"MetaServiceTypesGet200ApplicationJsonResponse\":\"StringsArray\",\"MetaServiceTypesGet200TextJsonResponse\":\"Strings" ++
  "Array\",\"MetaServiceTypesGet200ApplicationXmlResponse\":\"StringsArray\",\"MetaServiceTypesGet200TextXmlResponse\":\"StringsArray\",\"ids-Get200ApplicationJsonResponse\":\"LineArray\",\"ids-Get200TextJsonResponse\"" ++
  ":\"LineArray\",\"ids-Get200ApplicationXmlResponse\":\"LineArray\",\"ids-Get200TextXmlResponse\":\"LineArray\",\"Mode-modes-Get200ApplicationJsonResponse\":\"LineArray\",\"Mode-modes-Get200TextJsonResponse\":\"LineArra" ++
  "y\",\"Mode-modes-Get200ApplicationXmlResponse\":\"LineArray\",\"Mode-modes-Get200TextXmlResponse\":\"LineArray\",\"RouteGet200ApplicationJsonResponse\":\"LineArray\",\"RouteGet200TextJsonResponse\":\"LineArray\",\"Rout" ++
  "eGet200ApplicationXmlResponse\":\"LineArray\",\"RouteGet200TextXmlResponse\":\"LineArray\",\"ids-RouteGet200ApplicationJsonResponse\":\"LineArray\",\"ids-RouteGet200TextJsonResponse\":\"LineArray\",\"ids-RouteGet200A" ++
  "pplicationXmlResponse\":\"LineArray\",\"ids-RouteGet200TextXmlResponse\":\"LineArray\",\"Mode-modes-RouteGet200ApplicationJsonResponse\":\"LineArray\",\"Mode-modes-RouteGet200TextJsonResponse\":\"LineArray\",\"Mode-m" ++
  "odes-RouteGet200ApplicationXmlResponse\":\"LineArray\",\"Mode-modes-RouteGet200TextXmlResponse\":\"LineArray\",\"ids-Status-startDate-To-endDate-Get200ApplicationJsonResponse\":\"LineArray\",\"ids-Status-startDat" ++
  "e-To-endDate-Get200TextJsonResponse\":\"LineArray\",\"ids-Status-startDate-To-endDate-Get200ApplicationXmlResponse\":\"LineArray\",\"ids-Status-startDate-To-endDate-Get200TextXmlResponse\":\"LineArray\",\"ids-Sta" ++
  "tusGet200ApplicationJsonResponse\":\"LineArray\",\"ids-StatusGet200TextJsonResponse\":\"LineArray\",\"ids-StatusGet200ApplicationXmlResponse\":\"LineArray\",\"ids-StatusGet200TextXmlResponse\":\"LineArray\",\"Status-" ++
  "severity-Get200ApplicationJsonResponse\":\"LineArray\",\"Status-severity-Get200TextJsonResponse\":\"LineArray\",\"Status-severity-Get200ApplicationXmlResponse\":\"LineArray\",\"Status-severity-Get200TextXmlRespon" ++
  "se\":\"LineArray\",\"Mode-modes-StatusGet200ApplicationJsonResponse\":\"LineArray\",\"Mode-modes-StatusGet200TextJsonResponse\":\"LineArray\",\"Mode-modes-StatusGet200ApplicationXmlResponse\":\"LineArray\",\"Mode-mod" ++
  "es-StatusGet200TextXmlResponse\":\"LineArray\",\"id-StopPointsGet200ApplicationJsonResponse\":\"StopPointArray\",\"id-StopPointsGet200TextJsonResponse\":\"StopPointArray\",\"id-StopPointsGet200ApplicationXmlRespo" ++
  "nse\":\"StopPointArray\",\"id-StopPointsGet200TextXmlResponse\":\"StopPointArray\",\"ids-DisruptionGet200ApplicationJsonResponse\":\"DisruptionArray\",\"ids-DisruptionGet200TextJsonResponse\":\"DisruptionArray\",\"id" ++
  "s-DisruptionGet200ApplicationXmlResponse\":\"DisruptionArray\",\"ids-DisruptionGet200TextXmlResponse\":\"DisruptionArray\",\"Mode-modes-DisruptionGet200ApplicationJsonResponse\":\"DisruptionArray\",\"Mode-modes-D" ++
  "isruptionGet200TextJsonResponse\":\"DisruptionArray\",\"Mode-modes-DisruptionGet200ApplicationXmlResponse\":\"DisruptionArray\",\"Mode-modes-DisruptionGet200TextXmlResponse\":\"DisruptionArray\",\"ids-Arrivals-st" ++
  "opPointId-Get200ApplicationJsonResponse\":\"PredictionArray\",\"ids-Arrivals-stopPointId-Get200TextJsonResponse\":\"PredictionArray\",\"ids-Arrivals-stopPointId-Get200ApplicationXmlResponse\":\"PredictionArray\"" ++
  ",\"ids-Arrivals-stopPointId-Get200TextXmlResponse\":\"PredictionArray\",\"ids-ArrivalsGet200ApplicationJsonResponse\":\"PredictionArray\",\"ids-ArrivalsGet200TextJsonResponse\":\"PredictionArray\",\"ids-ArrivalsGe" ++
  "t200ApplicationXmlResponse\":\"PredictionArray\",\"ids-ArrivalsGet200TextXmlResponse\":\"PredictionArray\"\x7d\x7d,\"Mode\":\x7b\"description\":\"Transport mode definitions and service types\",\"mappings\":\x7b\"Tfl-Api-Presenta" ++
  "tion-Entities-ActiveServiceTypeArray\":\"ActiveServiceTypesArray\",\"Tfl.Api.Presentation.Entities.ActiveServiceType\":\"Tfl.Api.Presentation.Entities.ActiveServiceType\",\"Tfl-Api-Presentation-Entities-Activ" ++
  "eServiceTypeArray-1\":\"ActiveServiceTypesArray\",\"Tfl-Api-Presentation-Entities-ActiveServiceTypeArray-2\":\"ActiveServiceTypesArray\",\"Tfl-Api-Presentation-Entities-ActiveServiceTypeArray-3\":\"ActiveServic" ++
  "eTypesArray\",\"Tfl-Api-Presentation-Entities-PredictionArray-4\":\"PredictionArray\",\"Tfl.Api.Presentation.Entities.Prediction\":\"Tfl.Api.Presentation.Entities.Prediction\",\"Tfl.Api.Presentation.Entities.Pr" ++
  "edictionTiming\":\"Tfl.Api.Presentation.Entities.PredictionTiming\",\"Tfl-Api-Presentation-Entities-PredictionArray-5\":\"PredictionArray\",\"Tfl-Api-Presentation-Entities-PredictionArray-6\":\"PredictionArray\"" ++
  ",\"Tfl-Api-Presentation-Entities-PredictionArray-7\":\"PredictionArray\"\x7d\x7d,\"Place\":\x7b\"description\":\"Points of interest and location services\",\"mappings\":\x7b\"System\":\"System.Object\",\"Tfl\":\"Tfl.Api.Presentatio" ++
  "n.Entities.PlaceCategory\",\"Tfl-10\":\"Tfl.Api.Presentation.Entities.StopPoint\",\"Tfl-2\":\"Tfl.Api.Presentation.Entities.AdditionalProperties\",\"Tfl-3\":\"Tfl.Api.Presentation.Entities.Place\",\"Tfl-4\":\"Tfl.Api" ++
  ".Presentation.Entities.PassengerFlow\",\"Tfl-5\":\"Tfl.Api.Presentation.Entities.TrainLoading\",\"Tfl-6\":\"Tfl.Api.Presentation.Entities.Crowding\",\"Tfl-7\":\"Tfl.Api.Presentation.Entities.Identifier\",\"Tfl-8\":\"" ++
  "Tfl.Api.Presentation.Entities.LineGroup\",\"Tfl-9\":\"Tfl.Api.Presentation.Entities.LineModeGroup\"\x7d,\"response_mappings\":\x7b\"MetaCategoriesGet200ApplicationJsonResponse\":\"PlaceCategoryArray\",\"MetaCategoriesG" ++
  "et200TextJsonResponse\":\"PlaceCategoryArray\",\"MetaCategoriesGet200ApplicationXmlResponse\":\"PlaceCategoryArray\",\"MetaCategoriesGet200TextXmlResponse\":\"PlaceCategoryArray\",\"Get200ApplicationJsonResponse\"" ++
  ":\"ObjectResponse\",\"MetaPlaceTypesGet200ApplicationJsonResponse\":\"PlaceCategoryArray\",\"MetaPlaceTypesGet200TextJsonResponse\":\"PlaceCategoryArray\",\"MetaPlaceTypesGet200ApplicationXmlResponse\":\"PlaceCate" ++
  "goryArray\",\"MetaPlaceTypesGet200TextXmlResponse\":\"PlaceCategoryArray\",\"Type-types-Get200ApplicationJsonResponse\":\"PlaceArray\",\"Type-types-Get200TextJsonResponse\":\"PlaceArray\",\"Type-types-Get200Applica" ++
  "tionXmlResponse\":\"PlaceArray\",\"Type-types-Get200TextXmlResponse\":\"PlaceArray\",\"id-Get200ApplicationJsonResponse\":\"PlaceArray\",\"id-Get200TextJsonResponse\":\"PlaceArray\",\"id-Get200ApplicationXmlResponse\"" ++
  ":\"PlaceArray\",\"id-Get200TextXmlResponse\":\"PlaceArray\",\"Get200ApplicationJsonResponse-1\":\"StopPointArray\",\"Get200TextJsonResponse\":\"StopPointArray\",\"Get200ApplicationXmlResponse\":\"StopPointArray\",\"Get2" ++
  "00TextXmlResponse\":\"StopPointArray\",\"SearchGet200ApplicationJsonResponse\":\"PlaceArray\",\"SearchGet200TextJsonResponse\":\"PlaceArray\",\"SearchGet200ApplicationXmlResponse\":\"PlaceArray\",\"SearchGet200TextXm" ++
  "lResponse\":\"PlaceArray\"\x7d\x7d,\"Road\":\x7b\"description\":\"Road network status and traffic information\",\"mappings\":\x7b\"System\":\"System.Data.Spatial.DbGeographyWellKnownValue\",\"System-2\":\"System.Data.Spatial.DbGeo" ++
  "graphy\",\"System-3\":\"System.Object\",\"Tfl\":\"Tfl.Api.Presentation.Entities.RoadCorridor\",\"Tfl-2\":\"Tfl.Api.Presentation.Entities.StreetSegment\",\"Tfl-3\":\"Tfl.Api.Presentation.Entities.Street\",\"Tfl-4\":\"Tfl." ++
  "Api.Presentation.Entities.RoadProject\",\"Tfl-5\":\"Tfl.Api.Presentation.Entities.RoadDisruptionLine\",\"Tfl-6\":\"Tfl.Api.Presentation.Entities.RoadDisruptionImpactArea\",\"Tfl-7\":\"Tfl.Api.Presentation.Entitie" ++
  "s.RoadDisruptionSchedule\",\"Tfl-8\":\"Tfl.Api.Presentation.Entities.RoadDisruption\",\"Tfl-9\":\"Tfl.Api.Presentation.Entities.StatusSeverity\"\x7d,\"response_mappings\":\x7b\"Get200ApplicationJsonResponse\":\"RoadCorri" ++
  "dorsArray\",\"Get200TextJsonResponse\":\"RoadCorridorsArray\",\"Get200ApplicationXmlResponse\":\"RoadCorridorsArray\",\"Get200TextXmlResponse\":\"RoadCorridorsArray\",\"ids-Get200ApplicationJsonResponse\":\"RoadCorri" ++
  "dorsArray\",\"ids-Get200TextJsonResponse\":\"RoadCorridorsArray\",\"ids-Get200ApplicationXmlResponse\":\"RoadCorridorsArray\",\"ids-Get200TextXmlResponse\":\"RoadCorridorsArray\",\"ids-StatusGet200ApplicationJsonRe" ++
  "sponse\":\"RoadCorridorsArray\",\"ids-StatusGet200TextJsonResponse\":\"RoadCorridorsArray\",\"ids-StatusGet200ApplicationXmlResponse\":\"RoadCorridorsArray\",\"ids-StatusGet200TextXmlResponse\":\"RoadCorridorsArray" ++
  "\",\"ids-DisruptionGet200ApplicationJsonResponse\":\"RoadDisruptionsArray\",\"ids-DisruptionGet200TextJsonResponse\":\"RoadDisruptionsArray\",\"ids-DisruptionGet200ApplicationXmlResponse\":\"RoadDisruptionsArray\"" ++
  ",\"ids-DisruptionGet200TextXmlResponse\":\"RoadDisruptionsArray\",\"ids-DisruptionGet200ApplicationGeo-jsonResponse\":\"RoadDisruptionsArray\",\"MetaCategoriesGet200ApplicationJsonResponse\":\"StringsArray\",\"Met" ++
  "aCategoriesGet200TextJsonResponse\":\"StringsArray\",\"MetaCategoriesGet200ApplicationXmlResponse\":\"StringsArray\",\"MetaCategoriesGet200TextXmlResponse\":\"StringsArray\",\"MetaSeveritiesGet200ApplicationJsonR" ++
  "esponse\":\"StatusSeveritiesArray\",\"MetaSeveritiesGet200TextJsonResponse\":\"StatusSeveritiesArray\",\"MetaSeveritiesGet200ApplicationXmlResponse\":\"StatusSeveritiesArray\",\"MetaSeveritiesGet200TextXmlRespons" ++
  "e\":\"StatusSeveritiesArray\"\x7d\x7d,\"Search\":\x7b\"description\":\"Unified search across TfL services\",\"mappings\":\x7b\"Tfl\":\"Tfl.Api.Presentation.Entities.SearchMatch\",\"Tfl-2\":\"Tfl.Api.Presentation.Entities.SearchRes" ++
  "ponse\"\x7d,\"response_mappings\":\x7b\"MetaSearchProvidersGet200ApplicationJsonResponse\":\"StringsArray\",\"MetaSearchProvidersGet200TextJsonResponse\":\"StringsArray\",\"MetaSearchProvidersGet200ApplicationXmlRespon" ++
  "se\":\"StringsArray\",\"MetaSearchProvidersGet200TextXmlResponse\":\"StringsArray\",\"MetaCategoriesGet200ApplicationJsonResponse\":\"StringsArray\",\"MetaCategoriesGet200TextJsonResponse\":\"StringsArray\",\"MetaCat" ++
  "egoriesGet200ApplicationXmlResponse\":\"StringsArray\",\"MetaCategoriesGet200TextXmlResponse\":\"StringsArray\",\"MetaSortsGet200ApplicationJsonResponse\":\"StringsArray\",\"MetaSortsGet200TextJsonResponse\":\"Stri" ++
  "ngsArray\",\"MetaSortsGet200ApplicationXmlResponse\":\"StringsArray\",\"MetaSortsGet200TextXmlResponse\":\"StringsArray\"\x7d\x7d,\"StopPoint\":\x7b\"description\":\"Bus stops, stations, and transport hubs\",\"mappings\":\x7b\"Sys" ++
  "tem\":\"System.Object\",\"Tfl\":\"Tfl.Api.Presentation.Entities.StopPointCategory\",\"Tfl-10\":\"Tfl.Api.Presentation.Entities.Place\",\"Tfl-11\":\"Tfl.Api.Presentation.Entities.StopPoint\",\"Tfl-12\":\"Tfl.Api.Present" ++
  "ation.Entities.LineServiceTypeInfo\",\"Tfl-13\":\"Tfl.Api.Presentation.Entities.LineSpecificServiceType\",\"Tfl-14\":\"Tfl.Api.Presentation.Entities.LineServiceType\",\"Tfl-15\":\"Tfl.Api.Presentation.Entities.Pr" ++
  "edictionTiming\",\"Tfl-16\":\"Tfl.Api.Presentation.Entities.Prediction\",\"Tfl-17\":\"Tfl.Api.Presentation.Entities.ArrivalDeparture\",\"Tfl-18\":\"Tfl.Api.Presentation.Entities.StopPointRouteSection\",\"Tfl-19\":\"T" ++
  "fl.Api.Presentation.Entities.DisruptedPoint\",\"Tfl-2\":\"Tfl.Api.Presentation.Entities.Mode\",\"Tfl-20\":\"Tfl.Api.Presentation.Entities.StopPointsResponse\",\"Tfl-21\":\"Tfl.Api.Presentation.Entities.SearchMatc" ++
  "h\",\"Tfl-22\":\"Tfl.Api.Presentation.Entities.SearchResponse\",\"Tfl-3\":\"Tfl.Api.Presentation.Entities.PassengerFlow\",\"Tfl-4\":\"Tfl.Api.Presentation.Entities.TrainLoading\",\"Tfl-5\":\"Tfl.Api.Presentation.Enti" ++
  "ties.Crowding\",\"Tfl-6\":\"Tfl.Api.Presentation.Entities.Identifier\",\"Tfl-7\":\"Tfl.Api.Presentation.Entities.LineGroup\",\"Tfl-8\":\"Tfl.Api.Presentation.Entities.LineModeGroup\",\"Tfl-9\":\"Tfl.Api.Presentation." ++
  "Entities.AdditionalProperties\"\x7d\x7d,\"Vehicle\":\x7b\"description\":\"Vehicle position and real-time tracking\",\"mappings\":\x7b\"Tfl\":\"Tfl.Api.Presentation.Entities.PredictionTiming\",\"Tfl-2\":\"Tfl.Api.Presentation.Ent" ++
  "ities.Prediction\",\"Tfl-3\":\"Tfl.Api.Presentation.Entities.VehicleMatch\"\x7d,\"response_mappings\":\x7b\"ids-ArrivalsGet200ApplicationJsonResponse\":\"PredictionArray\",\"ids-ArrivalsGet200TextJsonResponse\":\"Predict" ++
  "ionArray\",\"ids-ArrivalsGet200ApplicationXmlResponse\":\"PredictionArray\",\"ids-ArrivalsGet200TextXmlResponse\":\"PredictionArray\"\x7d\x7d,\"crowding\":\x7b\"description\":\"Platform and vehicle crowding information\",\"ma" ++
  "ppings\":\x7b\x7d\x7d,\"occupancy\":\x7b\"description\":\"Car park and bike point occupancy data\",\"mappings\":\x7b\"Tfl\":\"Tfl.Api.Presentation.Entities.Bay\",\"Tfl-2\":\"Tfl.Api.Presentation.Entities.CarParkOccupancy\",\"Tfl-3\":\"" ++
  "Tfl.Api.Presentation.Entities.ChargeConnectorOccupancy\",\"Tfl-4\":\"Tfl.Api.Presentation.Entities.BikePointOccupancy\"\x7d\x7d\x7d\x7d"

/-- The bundled mappings document, read. -/
def mappingsDocument : Json := (Json.parse? mappingsText).getD .null

end TransitKit.Catalogue
