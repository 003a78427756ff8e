import TransitKit.Catalogue.Operation

/-!
# Response models

The models that answers are read into, by name, and whether each is a root model
(one that wraps a single value, a list for the array models) or an object model.
-/

namespace TransitKit.Catalogue

/-- The root models, by name. -/
def rootModels : List String := [
  "AccidentDetailArray", "ActiveServiceTypesArray", "ArrivalDepartureArray", "BikePointOccupancyArray",
  "ChargeConnectorOccupancyArray", "DisruptedPointArray", "DisruptionArray", "GenericResponseModel",
  "LiftDisruptionsArray", "LineArray", "LineServiceTypeArray", "LondonAirForecast",
  "ModeArray", "Object", "ObjectResponse", "PlaceArray",
  "PlaceCategoryArray", "PredictionArray", "RoadCorridorsArray", "RoadDisruptionsArray",
  "RootModel", "StatusSeveritiesArray", "StopPointArray", "StopPointRouteSectionArray",
  "StringsArray"]

/-- The object models, by name. -/
def objectModels : List String := [
  "AccidentDetail", "ActiveServiceType", "AdditionalProperties", "ApiError",
  "ArrivalDeparture", "BaseModel", "Bay", "BikePointOccupancy",
  "CarParkOccupancy", "Casualty", "ChargeConnectorOccupancy", "Crowding",
  "DbGeography", "DbGeographyWellKnownValue", "Disambiguation", "DisambiguationOption",
  "DisruptedPoint", "Disruption", "Fare", "FareCaveat",
  "FareTap", "FareTapDetails", "Identifier", "Instruction",
  "InstructionStep", "Interval", "ItineraryResult", "Journey",
  "JourneyFare", "JourneyPlannerCycleHireDockingStationData", "JourneyVector", "JpElevation",
  "KnownJourney", "Leg", "LiftDisruption", "Line",
  "LineGroup", "LineModeGroup", "LineRouteSection", "LineServiceType",
  "LineServiceTypeInfo", "LineSpecificServiceType", "LineStatus", "MatchedRoute",
  "MatchedRouteSections", "MatchedStop", "Mode", "Obstacle",
  "OrderedRoute", "PassengerFlow", "Path", "PathAttribute",
  "Period", "Place", "PlaceCategory", "PlannedWork",
  "Point", "Prediction", "PredictionTiming", "RoadCorridor",
  "RoadDisruption", "RoadDisruptionImpactArea", "RoadDisruptionLine", "RoadDisruptionSchedule",
  "RoadProject", "RouteOption", "RouteSearchMatch", "RouteSearchResponse",
  "RouteSection", "RouteSectionNaptanEntrySequence", "RouteSequence", "Schedule",
  "SearchCriteria", "SearchMatch", "SearchResponse", "ServiceFrequency",
  "StationInterval", "StatusSeverity", "StopPoint", "StopPointRouteSection",
  "StopPointSequence", "StopPointsResponse", "Street", "StreetSegment",
  "TimeAdjustment", "TimeAdjustments", "Timetable", "TimetableResponse",
  "TimetableRoute", "TrainLoading", "TwentyFourHourClockTime", "ValidityPeriod",
  "Vehicle", "VehicleMatch"]

/-- The kind of the model of a name, if there is one. -/
def modelKind? (name : String) : Option ModelKind :=
  if rootModels.contains name then some .root
  else if objectModels.contains name then some .object
  else none

end TransitKit.Catalogue
