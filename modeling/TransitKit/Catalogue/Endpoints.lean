import TransitKit.Catalogue.Operation

/-!
# The service's endpoints

Every client of the service with its operations: the parameters each takes, the
address template it fills, the query arguments it sends and the model its answer
is read into.
-/

namespace TransitKit.Catalogue

/-- The operations of `AccidentStatsClient`. -/
def accidentStatsClientOperations : List Operation := [
  ⟨"Get", [("year", true)], some ["year"], none, "/AccidentStats/\x7b0\x7d", "AccidentDetailArray"⟩]

/-- The operations of `AirQualityClient`. -/
def airQualityClientOperations : List Operation := [
  ⟨"Get", [], none, none, "/AirQuality/", "LondonAirForecast"⟩]

/-- The operations of `BikePointClient`. -/
def bikePointClientOperations : List Operation := [
  ⟨"GetAll", [], none, none, "/BikePoint/", "PlaceArray"⟩,
  ⟨"Get", [("id", true)], some ["id"], none, "/BikePoint/\x7b0\x7d", "Place"⟩,
  ⟨"Search", [("query", true)], none, some [("query", "query")], "/BikePoint/Search", "PlaceArray"⟩]

/-- The operations of `CrowdingClient`. -/
def crowdingClientOperations : List Operation := [
  ⟨"Naptan", [("Naptan", true)], some ["Naptan"], none, "/crowding/\x7b0\x7d", "GenericResponseModel"⟩,
  ⟨"Dayofweek", [("Naptan", true), ("DayOfWeek", true)], some ["Naptan", "DayOfWeek"], none, "/crowding/\x7b0\x7d/\x7b1\x7d", "GenericResponseModel"⟩,
  ⟨"Live", [("Naptan", true)], some ["Naptan"], none, "/crowding/\x7b0\x7d/Live", "GenericResponseModel"⟩]

/-- The operations of `JourneyClient`. -/
def journeyClientOperations : List Operation := [
  ⟨"Meta", [], none, none, "/Journey/Meta/Modes", "ModeArray"⟩,
  ⟨"JourneyResultsByPathFromPathToQueryViaQueryNationalSearchQueryDateQu", [("from_field", true), ("to", true), ("via", false), ("nationalSearch", false), ("date", false), ("time", false), ("timeIs", false), ("journeyPreference", false), ("mode", false), ("accessibilityPreference", false), ("fromName", false), ("toName", false), ("viaName", false), ("maxTransferMinutes", false), ("maxWalkingMinutes", false), ("walkingSpeed", false), ("cyclePreference", false), ("adjustment", false), ("bikeProficiency", false), ("alternativeCycle", false), ("alternativeWalking", false), ("applyHtmlMarkup", false), ("useMultiModalCall", false), ("walkingOptimization", false), ("taxiOnlyTrip", false), ("routeBetweenEntrances", false), ("useRealTimeLiveArrivals", false), ("calcOneDirection", false), ("includeAlternativeRoutes", false), ("overrideMultiModalScenario", false), ("combineTransferLegs", false)], some ["from_field", "to"], some [("via", "via"), ("nationalSearch", "nationalSearch"), ("date", "date"), ("time", "time"), ("timeIs", "timeIs"), ("journeyPreference", "journeyPreference"), ("mode", "mode"), ("accessibilityPreference", "accessibilityPreference"), ("fromName", "fromName"), ("toName", "toName"), ("viaName", "viaName"), ("maxTransferMinutes", "maxTransferMinutes"), ("maxWalkingMinutes", "maxWalkingMinutes"), ("walkingSpeed", "walkingSpeed"), ("cyclePreference", "cyclePreference"), ("adjustment", "adjustment"), ("bikeProficiency", "bikeProficiency"), ("alternativeCycle", "alternativeCycle"), ("alternativeWalking", "alternativeWalking"), ("applyHtmlMarkup", "applyHtmlMarkup"), ("useMultiModalCall", "useMultiModalCall"), ("walkingOptimization", "walkingOptimization"), ("taxiOnlyTrip", "taxiOnlyTrip"), ("routeBetweenEntrances", "routeBetweenEntrances"), ("useRealTimeLiveArrivals", "useRealTimeLiveArrivals"), ("calcOneDirection", "calcOneDirection"), ("includeAlternativeRoutes", "includeAlternativeRoutes"), ("overrideMultiModalScenario", "overrideMultiModalScenario"), ("combineTransferLegs", "combineTransferLegs")], "/Journey/JourneyResults/\x7b0\x7d/to/\x7b1\x7d", "ItineraryResult"⟩,
  ⟨"Proxy", [], none, none, "/Journey/*", "ObjectResponse"⟩]

/-- The operations of `LiftDisruptionsClient`. -/
def liftDisruptionsClientOperations : List Operation := [
  ⟨"Get", [], none, none, "/Disruptions/Lifts/v2/", "LiftDisruptionsArray"⟩]

/-- The operations of `LineClient`. -/
def lineClientOperations : List Operation := [
  ⟨"MetaModes", [], none, none, "/Line/Meta/Modes", "ModeArray"⟩,
  ⟨"MetaSeverity", [], none, none, "/Line/Meta/Severity", "StatusSeveritiesArray"⟩,
  ⟨"MetaDisruptionCategories", [], none, none, "/Line/Meta/DisruptionCategories", "StringsArray"⟩,
  ⟨"MetaServiceTypes", [], none, none, "/Line/Meta/ServiceTypes", "StringsArray"⟩,
  ⟨"GetByPathIds", [("ids", true)], some ["ids"], none, "/Line/\x7b0\x7d", "LineArray"⟩,
  ⟨"GetByModeByPathModes", [("modes", true)], some ["modes"], none, "/Line/Mode/\x7b0\x7d", "LineArray"⟩,
  ⟨"RouteByQueryServiceTypes", [("serviceTypes", false)], none, some [("serviceTypes", "serviceTypes")], "/Line/Route", "LineArray"⟩,
  ⟨"LineRoutesByIdsByPathIdsQueryServiceTypes", [("ids", true), ("serviceTypes", false)], some ["ids"], some [("serviceTypes", "serviceTypes")], "/Line/\x7b0\x7d/Route", "LineArray"⟩,
  ⟨"RouteByModeByPathModesQueryServiceTypes", [("modes", true), ("serviceTypes", false)], some ["modes"], some [("serviceTypes", "serviceTypes")], "/Line/Mode/\x7b0\x7d/Route", "LineArray"⟩,
  ⟨"RouteSequenceByPathIdPathDirectionQueryServiceTypesQueryExcludeCrowding", [("id", true), ("direction", true), ("serviceTypes", false), ("excludeCrowding", false)], some ["id", "direction"], some [("serviceTypes", "serviceTypes"), ("excludeCrowding", "excludeCrowding")], "/Line/\x7b0\x7d/Route/Sequence/\x7b1\x7d", "RouteSequence"⟩,
  ⟨"StatusByPathIdsPathStartDatePathEndDateQueryDetail", [("ids", true), ("startDate", true), ("endDate", true), ("detail", false)], some ["ids", "startDate", "endDate"], some [("detail", "detail")], "/Line/\x7b0\x7d/Status/\x7b1\x7d/to/\x7b2\x7d", "LineArray"⟩,
  ⟨"StatusByIdsByPathIdsQueryDetail", [("ids", true), ("detail", false)], some ["ids"], some [("detail", "detail")], "/Line/\x7b0\x7d/Status", "LineArray"⟩,
  ⟨"SearchByPathQueryQueryModesQueryServiceTypes", [("query", true), ("modes", false), ("serviceTypes", false)], some ["query"], some [("modes", "modes"), ("serviceTypes", "serviceTypes")], "/Line/Search/\x7b0\x7d", "RouteSearchResponse"⟩,
  ⟨"StatusBySeverityByPathSeverity", [("severity", true)], some ["severity"], none, "/Line/Status/\x7b0\x7d", "LineArray"⟩,
  ⟨"StatusByModeByPathModesQueryDetailQuerySeverityLevel", [("modes", true), ("detail", false), ("severityLevel", false)], some ["modes"], some [("detail", "detail"), ("severityLevel", "severityLevel")], "/Line/Mode/\x7b0\x7d/Status", "LineArray"⟩,
  ⟨"StopPointsByPathIdQueryTflOperatedNationalRailStationsOnly", [("id", true), ("tflOperatedNationalRailStationsOnly", false)], some ["id"], some [("tflOperatedNationalRailStationsOnly", "tflOperatedNationalRailStationsOnly")], "/Line/\x7b0\x7d/StopPoints", "StopPointArray"⟩,
  ⟨"TimetableByPathFromStopPointIdPathId", [("fromStopPointId", true), ("id", true)], some ["fromStopPointId", "id"], none, "/Line/\x7b1\x7d/Timetable/\x7b0\x7d", "TimetableResponse"⟩,
  ⟨"TimetableToByPathFromStopPointIdPathIdPathToStopPointId", [("fromStopPointId", true), ("id", true), ("toStopPointId", true)], some ["fromStopPointId", "id", "toStopPointId"], none, "/Line/\x7b1\x7d/Timetable/\x7b0\x7d/to/\x7b2\x7d", "TimetableResponse"⟩,
  ⟨"DisruptionByPathIds", [("ids", true)], some ["ids"], none, "/Line/\x7b0\x7d/Disruption", "DisruptionArray"⟩,
  ⟨"DisruptionByModeByPathModes", [("modes", true)], some ["modes"], none, "/Line/Mode/\x7b0\x7d/Disruption", "DisruptionArray"⟩,
  ⟨"ArrivalsWithStopPointByPathIdsPathStopPointIdQueryDirectionQueryDestina", [("ids", true), ("stopPointId", true), ("direction", false), ("destinationStationId", false)], some ["ids", "stopPointId"], some [("direction", "direction"), ("destinationStationId", "destinationStationId")], "/Line/\x7b0\x7d/Arrivals/\x7b1\x7d", "PredictionArray"⟩,
  ⟨"ArrivalsByPathIds", [("ids", true)], some ["ids"], none, "/Line/\x7b0\x7d/Arrivals", "PredictionArray"⟩,
  ⟨"Proxy", [], none, none, "/Line/*", "ObjectResponse"⟩]

/-- The operations of `ModeClient`. -/
def modeClientOperations : List Operation := [
  ⟨"GetActiveServiceTypes", [], none, none, "/Mode/ActiveServiceTypes", "ActiveServiceTypesArray"⟩,
  ⟨"Arrivals", [("mode", true), ("count", false)], some ["mode"], some [("count", "count")], "/Mode/\x7b0\x7d/Arrivals", "PredictionArray"⟩]

/-- The operations of `OccupancyClient`. -/
def occupancyClientOperations : List Operation := [
  ⟨"GetAllChargeConnectorStatus", [], none, none, "/Occupancy/ChargeConnector", "ChargeConnectorOccupancyArray"⟩,
  ⟨"GetChargeConnectorStatusByPathIds", [("ids", true)], some ["ids"], none, "/Occupancy/ChargeConnector/\x7b0\x7d", "ChargeConnectorOccupancyArray"⟩,
  ⟨"GetBikePointsOccupanciesByPathIds", [("ids", true)], some ["ids"], none, "/Occupancy/BikePoints/\x7b0\x7d", "BikePointOccupancyArray"⟩,
  ⟨"Proxy", [], none, none, "/Occupancy/*", "GenericResponseModel"⟩]

/-- The operations of `PlaceClient`. -/
def placeClientOperations : List Operation := [
  ⟨"MetaCategories", [], none, none, "/Place/Meta/Categories", "PlaceCategoryArray"⟩,
  ⟨"MetaPlaceTypes", [], none, none, "/Place/Meta/PlaceTypes", "PlaceCategoryArray"⟩,
  ⟨"GetByTypeByPathTypesQueryActiveOnly", [("types", true), ("activeOnly", false)], some ["types"], some [("activeOnly", "activeOnly")], "/Place/Type/\x7b0\x7d", "PlaceArray"⟩,
  ⟨"GetByPathIdQueryIncludeChildren", [("id", true), ("includeChildren", false)], some ["id"], some [("includeChildren", "includeChildren")], "/Place/\x7b0\x7d", "PlaceArray"⟩,
  ⟨"GetByGeoPointByQueryLatQueryLonQueryRadiusQueryCategoriesQueryIncludeC", [("Lat", true), ("Lon", true), ("radius", false), ("categories", false), ("includeChildren", false), ("type", false), ("activeOnly", false), ("numberOfPlacesToReturn", false)], none, some [("Lat", "Lat"), ("Lon", "Lon"), ("radius", "radius"), ("categories", "categories"), ("includeChildren", "includeChildren"), ("type", "type"), ("activeOnly", "activeOnly"), ("numberOfPlacesToReturn", "numberOfPlacesToReturn")], "/Place/", "StopPointArray"⟩,
  ⟨"GetAtByPathTypePathLatPathLon", [("type", true), ("lat", true), ("lon", true)], some ["type", "lat", "lon"], none, "/Place/\x7b0\x7d/At/\x7b1\x7d/\x7b2\x7d", "Object"⟩,
  ⟨"SearchByQueryNameQueryTypes", [("name", true), ("types", false)], none, some [("name", "name"), ("types", "types")], "/Place/Search", "PlaceArray"⟩,
  ⟨"Proxy", [], none, none, "/Place/*", "ObjectResponse"⟩]

/-- The operations of `RoadClient`. -/
def roadClientOperations : List Operation := [
  ⟨"Get", [], none, none, "/Road/", "RoadCorridorsArray"⟩,
  ⟨"GetByPathIds", [("ids", true)], some ["ids"], none, "/Road/\x7b0\x7d", "RoadCorridorsArray"⟩,
  ⟨"StatusByPathIdsQueryStartDateQueryEndDate", [("ids", true), ("startDate", false), ("endDate", false)], some ["ids"], some [("startDate", "startDate"), ("endDate", "endDate")], "/Road/\x7b0\x7d/Status", "RoadCorridorsArray"⟩,
  ⟨"DisruptionByPathIdsQueryStripContentQuerySeveritiesQueryCategoriesQuery", [("ids", true), ("stripContent", false), ("severities", false), ("categories", false), ("closures", false)], some ["ids"], some [("stripContent", "stripContent"), ("severities", "severities"), ("categories", "categories"), ("closures", "closures")], "/Road/\x7b0\x7d/Disruption", "RoadDisruptionsArray"⟩,
  ⟨"DisruptedStreetsByQueryStartDateQueryEndDate", [("startDate", false), ("endDate", false)], none, some [("startDate", "startDate"), ("endDate", "endDate")], "/Road/all/Street/Disruption", "Object"⟩,
  ⟨"DisruptionByIdByPathDisruptionIdsQueryStripContent", [("disruptionIds", true), ("stripContent", false)], some ["disruptionIds"], some [("stripContent", "stripContent")], "/Road/all/Disruption/\x7b0\x7d", "RoadDisruption"⟩,
  ⟨"MetaCategories", [], none, none, "/Road/Meta/Categories", "StringsArray"⟩,
  ⟨"MetaSeverities", [], none, none, "/Road/Meta/Severities", "StatusSeveritiesArray"⟩]

/-- The operations of `SearchClient`. -/
def searchClientOperations : List Operation := [
  ⟨"GetByQueryQuery", [("query", true)], none, some [("query", "query")], "/Search/", "SearchResponse"⟩,
  ⟨"BusSchedulesByQueryQuery", [("query", true)], none, some [("query", "query")], "/Search/BusSchedules", "SearchResponse"⟩,
  ⟨"MetaSearchProviders", [], none, none, "/Search/Meta/SearchProviders", "StringsArray"⟩,
  ⟨"MetaCategories", [], none, none, "/Search/Meta/Categories", "StringsArray"⟩,
  ⟨"MetaSorts", [], none, none, "/Search/Meta/Sorts", "StringsArray"⟩]

/-- The operations of `StopPointClient`. -/
def stopPointClientOperations : List Operation := [
  ⟨"MetaCategories", [], none, none, "/StopPoint/Meta/Categories", "PlaceCategoryArray"⟩,
  ⟨"Proxy", [], none, none, "/StopPoint/*", "GenericResponseModel"⟩,
  ⟨"MetaStopTypes", [], none, none, "/StopPoint/Meta/StopTypes", "GenericResponseModel"⟩,
  ⟨"MetaModes", [], none, none, "/StopPoint/Meta/Modes", "ModeArray"⟩,
  ⟨"GetByPathIdsQueryIncludeCrowdingData", [("ids", true), ("includeCrowdingData", false)], some ["ids"], some [("includeCrowdingData", "includeCrowdingData")], "/StopPoint/\x7b0\x7d", "StopPointArray"⟩,
  ⟨"GetByPathIdQueryPlaceTypes", [("id", true), ("placeTypes", true)], some ["id"], some [("placeTypes", "placeTypes")], "/StopPoint/\x7b0\x7d/placeTypes", "PlaceArray"⟩,
  ⟨"CrowdingByPathIdPathLineQueryDirection", [("id", true), ("line", true), ("direction", true)], some ["id", "line"], some [("direction", "direction")], "/StopPoint/\x7b0\x7d/Crowding/\x7b1\x7d", "StopPointArray"⟩,
  ⟨"GetByTypeByPathTypes", [("types", true)], some ["types"], none, "/StopPoint/Type/\x7b0\x7d", "StopPointArray"⟩,
  ⟨"GetByTypeWithPaginationByPathTypesPathPage", [("types", true), ("page", true)], some ["types", "page"], none, "/StopPoint/Type/\x7b0\x7d/page/\x7b1\x7d", "StopPointArray"⟩,
  ⟨"GetServiceTypesByQueryIdQueryLineIdsQueryModes", [("id", true), ("lineIds", false), ("modes", false)], none, some [("id", "id"), ("lineIds", "lineIds"), ("modes", "modes")], "/StopPoint/ServiceTypes", "LineServiceTypeArray"⟩,
  ⟨"ArrivalsByPathId", [("id", true)], some ["id"], none, "/StopPoint/\x7b0\x7d/Arrivals", "PredictionArray"⟩,
  ⟨"ArrivalDeparturesByPathIdQueryLineIds", [("id", true), ("lineIds", true)], some ["id"], some [("lineIds", "lineIds")], "/StopPoint/\x7b0\x7d/ArrivalDepartures", "ArrivalDepartureArray"⟩,
  ⟨"ReachableFromByPathIdPathLineIdQueryServiceTypes", [("id", true), ("lineId", true), ("serviceTypes", false)], some ["id", "lineId"], some [("serviceTypes", "serviceTypes")], "/StopPoint/\x7b0\x7d/CanReachOnLine/\x7b1\x7d", "StopPointArray"⟩,
  ⟨"RouteByPathIdQueryServiceTypes", [("id", true), ("serviceTypes", false)], some ["id"], some [("serviceTypes", "serviceTypes")], "/StopPoint/\x7b0\x7d/Route", "StopPointRouteSectionArray"⟩,
  ⟨"DisruptionByModeByPathModesQueryIncludeRouteBlockedStops", [("modes", true), ("includeRouteBlockedStops", false)], some ["modes"], some [("includeRouteBlockedStops", "includeRouteBlockedStops")], "/StopPoint/Mode/\x7b0\x7d/Disruption", "DisruptedPointArray"⟩,
  ⟨"DisruptionByPathIdsQueryGetFamilyQueryIncludeRouteBlockedStopsQuer", [("ids", true), ("getFamily", false), ("includeRouteBlockedStops", false), ("flattenResponse", false)], some ["ids"], some [("getFamily", "getFamily"), ("includeRouteBlockedStops", "includeRouteBlockedStops"), ("flattenResponse", "flattenResponse")], "/StopPoint/\x7b0\x7d/Disruption", "DisruptedPointArray"⟩,
  ⟨"DirectionByPathIdPathToStopPointIdQueryLineId", [("id", true), ("toStopPointId", true), ("lineId", false)], some ["id", "toStopPointId"], some [("lineId", "lineId")], "/StopPoint/\x7b0\x7d/DirectionTo/\x7b1\x7d", "GenericResponseModel"⟩,
  ⟨"GetByGeoPointByQueryLatQueryLonQueryStopTypesQueryRadiusQueryUseSt", [("lat", true), ("lon", true), ("stopTypes", true), ("radius", false), ("useStopPointHierarchy", false), ("modes", false), ("categories", false), ("returnLines", false)], none, some [("lat", "lat"), ("lon", "lon"), ("stopTypes", "stopTypes"), ("radius", "radius"), ("useStopPointHierarchy", "useStopPointHierarchy"), ("modes", "modes"), ("categories", "categories"), ("returnLines", "returnLines")], "/StopPoint/", "StopPointsResponse"⟩,
  ⟨"GetByModeByPathModesQueryPage", [("modes", true), ("page", false)], some ["modes"], some [("page", "page")], "/StopPoint/Mode/\x7b0\x7d", "StopPointsResponse"⟩,
  ⟨"SearchByPathQueryQueryModesQueryFaresOnlyQueryMaxResultsQueryLines", [("query", true), ("modes", false), ("faresOnly", false), ("maxResults", false), ("lines", false), ("includeHubs", false), ("tflOperatedNationalRailStationsOnly", false)], some ["query"], some [("modes", "modes"), ("faresOnly", "faresOnly"), ("maxResults", "maxResults"), ("lines", "lines"), ("includeHubs", "includeHubs"), ("tflOperatedNationalRailStationsOnly", "tflOperatedNationalRailStationsOnly")], "/StopPoint/Search/\x7b0\x7d", "SearchResponse"⟩,
  ⟨"SearchByQueryQueryQueryModesQueryFaresOnlyQueryMaxResultsQueryLine", [("query", true), ("modes", false), ("faresOnly", false), ("maxResults", false), ("lines", false), ("includeHubs", false), ("tflOperatedNationalRailStationsOnly", false)], none, some [("query", "query"), ("modes", "modes"), ("faresOnly", "faresOnly"), ("maxResults", "maxResults"), ("lines", "lines"), ("includeHubs", "includeHubs"), ("tflOperatedNationalRailStationsOnly", "tflOperatedNationalRailStationsOnly")], "/StopPoint/Search", "SearchResponse"⟩,
  ⟨"GetBySmsByPathIdQueryOutput", [("id", true), ("output", false)], some ["id"], some [("output", "output")], "/StopPoint/Sms/\x7b0\x7d", "Object"⟩,
  ⟨"GetTaxiRanksByIdsByPathStopPointId", [("stopPointId", true)], some ["stopPointId"], none, "/StopPoint/\x7b0\x7d/TaxiRanks", "PlaceArray"⟩,
  ⟨"GetCarParksByIdByPathStopPointId", [("stopPointId", true)], some ["stopPointId"], none, "/StopPoint/\x7b0\x7d/CarParks", "PlaceArray"⟩]

/-- The operations of `VehicleClient`. -/
def vehicleClientOperations : List Operation := [
  ⟨"GetByPathIds", [("ids", true)], some ["ids"], none, "/Vehicle/\x7b0\x7d/Arrivals", "PredictionArray"⟩]

/-- Every client by name, with the base address it calls. -/
def clients : List ClientSpec := [
  ⟨"AccidentStatsClient", "https://api.tfl.gov.uk", accidentStatsClientOperations⟩,
  ⟨"AirQualityClient", "https://api.tfl.gov.uk", airQualityClientOperations⟩,
  ⟨"BikePointClient", "https://api.tfl.gov.uk", bikePointClientOperations⟩,
  ⟨"CrowdingClient", "https://api.tfl.gov.uk", crowdingClientOperations⟩,
  ⟨"JourneyClient", "https://api.tfl.gov.uk", journeyClientOperations⟩,
  ⟨"LiftDisruptionsClient", "https://api.tfl.gov.uk", liftDisruptionsClientOperations⟩,
  ⟨"LineClient", "https://api.tfl.gov.uk", lineClientOperations⟩,
  ⟨"ModeClient", "https://api.tfl.gov.uk", modeClientOperations⟩,
  ⟨"OccupancyClient", "https://api.tfl.gov.uk", occupancyClientOperations⟩,
  ⟨"PlaceClient", "https://api.tfl.gov.uk", placeClientOperations⟩,
  ⟨"RoadClient", "https://api.tfl.gov.uk", roadClientOperations⟩,
  ⟨"SearchClient", "https://api.tfl.gov.uk", searchClientOperations⟩,
  ⟨"StopPointClient", "https://api.tfl.gov.uk", stopPointClientOperations⟩,
  ⟨"VehicleClient", "https://api.tfl.gov.uk", vehicleClientOperations⟩]

end TransitKit.Catalogue
