import TransitKit.Json.Reader

/-!
# Bundled API descriptions

The OpenAPI descriptions of the TfL APIs that the client package is generated from,
one per API, as compact JSON text with every character outside ASCII escaped.
-/

namespace TransitKit.Catalogue

/-- The bundled descriptions by file name, as JSON text with `~` written for each double
quote. -/
def descriptionTexts : List (String × String) := [
  ("AccidentStats",
   "\x7b~openapi~:~3.0.1~,~info~:\x7b~title~:~AccidentStats~,~description~:~APIs relating to AccidentStats and similar services~,~version~:~1.0~\x7d,~servers~:[\x7b~url~:~https://api.tfl.gov.uk/AccidentStats~\x7d],~paths~:\x7b~/\x7byear\x7d~:\x7b~get~:\x7b~tags~:[~AccidentStats~],~summary~:~Gets all accident details for accidents occuring in the specified year~,~description~:~Gets all accident details for accidents occuring in the specified year~,~operationId~:~AccidentStats_Get~,~parameters~:[\x7b~name~:~year~,~in~:~path~,~description~:~Format - int32. The year for which to filter the accidents on.~,~required~:true,~schema~:\x7b~type~:~integer~\x7d,~example~:2017\x7d],~responses~:\x7b~200~:\x7b~description~:~OK~,~content~:\x7b~application/json~:\x7b~schema~:\x7b~$ref~:~#/components/schemas/Tfl-Api-Presentation-Entities-AccidentStats-AccidentDetailArray~\x7d,~example~:[\x7b~id~:0,~lat~:0,~lon~:0,~location~:~string~,~date~:~string~,~severity~:~string~,~borough~:~string~,~casualties~:[\x7b~age~:0,~class~:~string~,~severity~:~string~,~mode~:~string~,~ageBand~:~string~\x7d],~vehicles~:[\x7b~type~:~string~\x7d]\x7d]\x7d,~text/json~:\x7b~schema~:\x7b~$ref~:~#/components/schemas/Tfl-Api-Presentation-Entities-AccidentStats-AccidentDetailArray-1~\x7d,~example~:[\x7b~id~:0,~lat~:0,~lon~:0,~location~:~string~,~date~:~string~,~severity~:~string~,~borough~:~string~,~casualties~:[\x7b~age~:0,~class~:~string~,~severity~:~string~,~mode~:~string~,~ageBand~:~string~\x7d],~vehicles~:[\x7b~type~:~string~\x7d]\x7d]\x7d,~application/xml~:\x7b~schema~:\x7b~$ref~:~#/components/schemas/Tfl-Api-Presentation-Entities-AccidentStats-AccidentDetailArray-2~\x7d,~example~:~<Tfl-Api-Presentation-Entities-AccidentStats-AccidentDetailArray-2> <id>0</id> <lat>0</lat> <lon>0</lon> <location>string</location> <date>string</date> <severity>string</severity> <borough>string</borough> <casualties> <age>0</age> <class>string</class> <severity>string</severity> <mode>string</mode> <ageBand>string</ageBand> </casualties> <vehicles> <type>string</type> </vehicles> </Tfl-Api-Presentation-Entities-AccidentStats-AccidentDetailArray-2>~\x7d,~text/xml~:\x7b~schema~:\x7b~$ref~:~#/components/schemas/Tfl-Api-Presentation-Entities-AccidentStats-AccidentDetailArray-3~\x7d,~example~:~<Tfl-Api-Presentation-Entities-AccidentStats-AccidentDetailArray-3> <id>0</id> <lat>0</lat> <lon>0</lon> <location>string</location> <date>string</date> <severity>string</severity> <borough>string</borough> <casualties> <age>0</age> <class>string</class> <severity>string</severity> <mode>string</mode> <ageBand>string</ageBand> </casualties> <vehicles> <type>string</type> </vehicles> </Tfl-Api-Presentation-Entities-AccidentStats-AccidentDetailArray-3>~\x7d\x7d\x7d\x7d\x7d\x7d\x7d,~components~:\x7b~schemas~:\x7b~Tfl-Api-Presentation-Entities-AccidentStats-AccidentDetailArray~:\x7b~type~:~array~,~items~:\x7b~$ref~:~#/components/schemas/Tfl.Api.Presentation.Entities.AccidentStats.AccidentDetail~\x7d\x7d,~Tfl.Api.Presentation.Entities.AccidentStats.AccidentDetail~:\x7b~type~:~object~,~properties~:\x7b~id~:\x7b~type~:~integer~,~format~:~int32~\x7d,~lat~:\x7b~type~:~number~,~format~:~double~\x7d,~lon~:\x7b~type~:~number~,~format~:~double~\x7d,~location~:\x7b~type~:~string~\x7d,~date~:\x7b~type~:~string~,~format~:~date-time~\x7d,~severity~:\x7b~type~:~string~\x7d,~borough~:\x7b~type~:~string~\x7d,~casualties~:\x7b~type~:~array~,~items~:\x7b~$ref~:~#/components/schemas/Tfl.Api.Presentation.Entities.AccidentStats.Casualty~\x7d\x7d,~vehicles~:\x7b~type~:~array~,~items~:\x7b~$ref~:~#/components/schemas/Tfl.Api.Presentation.Entities.AccidentStats.Vehicle~\x7d\x7d\x7d\x7d,~Tfl.Api.Presentation.Entities.AccidentStats.Casualty~:\x7b~type~:~object~,~properties~:\x7b~age~:\x7b~type~:~integer~,~format~:~int32~\x7d,~class~:\x7b~type~:~string~\x7d,~severity~:\x7b~type~:~string~\x7d,~mode~:\x7b~type~:~string~\x7d,~ageBand~:\x7b~type~:~string~\x7d\x7d\x7d,~Tfl.Api.Presentation.Entities.AccidentStats.Vehicle~:\x7b~type~:~object~,~properties~:\x7b~type~:\x7b~type~:~string~\x7d\x7d\x7d,~Tfl-Api-Presentation-Entities-AccidentStats-AccidentDetailArray-1~:\x7b~type~:~array~,~items~:\x7b~$ref~:~#/components/schemas/Tfl.Api.Presentation.Entities.AccidentStats.AccidentDetail~\x7d\x7d,~Tfl-Api-Presentation-Entities-AccidentStats-AccidentDetailArray-2~:\x7b~type~:~array~,~items~:\x7b~$ref~:~#/components/schemas/Tfl.Api.Presentation.Entities.AccidentStats.AccidentDetail~\x7d\x7d,~Tfl-Api-Presentation-Entities-AccidentStats-AccidentDetailArray-3~:\x7b~type~:~array~,~items~:\x7b~$ref~:~#/components/schemas/Tfl.Api.Presentation.Entities.AccidentStats.AccidentDetail~\x7d\x7d\x7d,~securitySchemes~:\x7b~apiKeyHeader~:\x7b~type~:~apiKey~,~name~:~app_key~,~in~:~header~\x7d,~apiKeyQuery~:\x7b~type~:~apiKey~,~name~:~app_key~,~in~:~query~\x7d\x7d\x7d,~security~:[\x7b~apiKeyHeader~:[]\x7d,\x7b~apiKeyQuery~:[]\x7d]\x7d"),
  ("AirQuality",
   "\x7b~openapi~:~3.0.1~,~info~:\x7b~title~:~AirQuality~,~description~:~APIs relating to AirQuality and similar services~,~version~:~1.0~\x7d,~servers~:[\x7b~url~:~https://api.tfl.gov.uk/AirQuality~\x7d],~paths~:\x7b~/~:\x7b~get~:\x7b~tags~:[~AirQuality~],~summary~:~Gets air quality data feed~,~description~:~Gets air quality data feed~,~operationId~:~AirQuality_Get~,~responses~:\x7b~200~:\x7b~description~:~OK~,~content~:\x7b~application/json~:\x7b~schema~:\x7b~$ref~:~#/components/schemas/System.Object~\x7d\x7d,~text/json~:\x7b~schema~:\x7b~$ref~:~#/components/schemas/System.Object~\x7d\x7d,~application/xml~:\x7b~schema~:\x7b~$ref~:~#/components/schemas/System.Object~\x7d,~example~:~<System.Object />~\x7d,~text/xml~:\x7b~schema~:\x7b~$ref~:~#/components/schemas/System.Object~\x7d,~example~:~<System.Object />~\x7d\x7d\x7d\x7d\x7d\x7d\x7d,~components~:\x7b~schemas~:\x7b~System.Object~:\x7b~type~:~object~\x7d\x7d,~securitySchemes~:\x7b~apiKeyHeader~:\x7b~type~:~apiKey~,~name~:~app_key~,~in~:~header~\x7d,~apiKeyQuery~:\x7b~type~:~apiKey~,~name~:~app_key~,~in~:~query~\x7d\x7d\x7d,~security~:[\x7b~apiKeyHeader~:[]\x7d,\x7b~apiKeyQuery~:[]\x7d]\x7d"),
  ("BikePoint",
   "\x7b~openapi~:~3.0.1~,~info~:\x7b~title~:~BikePoint~,~description~:~APIs relating to BikePoint and similar services~,~version~:~1.0~\x7d,~servers~:[\x7b~url~:~https://api.tfl.gov.uk/BikePoint~\x7d],~paths~:\x7b~/~:\x7b~get~:\x7b~tags~:[~BikePoint~],~summary~:~Gets all bike point locations. The Place object has an addtionalProperties array which contains the nbBikes, nbDocks and nbSpaces\\r\\n            numbers which give the status of the BikePoint. A mismatch in these numbers i.e. nbDocks - (nbBikes + nbSpaces) != 0 indicates broken docks.~,~description~:~Gets all bike point locations. The Place object has an addtionalProperties array which contains the nbBikes, nbDocks and nbSpaces\\r\\n            numbers which give the status of the BikePoint. A mismatch in these numbers i.e. nbDocks - (nbBikes + nbSpaces) != 0 indicates broken docks.~,~operationId~:~BikePoint_GetAll~,~responses~:\x7b~200~:\x7b~description~:~OK~,~content~:\x7b~application/json~:\x7b~schema~:\x7b~$ref~:~#/components/schemas/Tfl-Api-Presentation-Entities-PlaceArray~\x7d\x7d,~text/json~:\x7b~schema~:\x7b~$ref~:~#/components/schemas/Tfl-Api-Presentation-Entities-PlaceArray-1~\x7d\x7d,~application/xml~:\x7b~schema~:\x7b~$ref~:~#/components/schemas/Tfl-Api-Presentation-Entities-PlaceArray-2~\x7d\x7d,~text/xml~:\x7b~schema~:\x7b~$ref~:~#/components/schemas/Tfl-Api-Presentation-Entities-PlaceArray-3~\x7d\x7d\x7d\x7d\x7d\x7d\x7d,~/\x7bid\x7d~:\x7b~get~:\x7b~tags~:[~BikePoint~],~summary~:~Gets the bike point with the given id.~,~description~:~Gets the bike point with the given id.~,~operationId~:~BikePoint_Get~,~parameters~:[\x7b~name~:~id~,~in~:~path~,~description~:~A bike point id (a list of ids can be obtained from the above BikePoint call)~,~required~:true,~schema~:\x7b~type~:~string~\x7d,~example~:~BikePoints_583~\x7d],~responses~:\x7b~200~:\x7b~description~:~OK~,~content~:\x7b~application/json~:\x7b~schema~:\x7b~$ref~:~#/components/schemas/Tfl.Api.Presentation.Entities.Place~\x7d\x7d,~text/json~:\x7b~schema~:\x7b~$ref~:~#/components/schemas/Tfl.Api.Presentation.Entities.Place~\x7d\x7d,~application/xml~:\x7b~schema~:\x7b~$ref~:~#/components/schemas/Tfl.Api.Presentation.Entities.Place~\x7d\x7d,~text/xml~:\x7b~schema~:\x7b~$ref~:~#/components/schemas/Tfl.Api.Presentation.Entities.Place~\x7d\x7d\x7d\x7d\x7d\x7d\x7d,~/Search~:\x7b~get~:\x7b~tags~:[~BikePoint~],~summary~:~Search for bike stations by their name, a bike point's name often contains information about the name of the street\\r\\n            or nearby landmarks, for example. Note that the search result does not contain the PlaceProperties i.e. the status\\r\\n            or occupancy of the BikePoint, to get that ~,~description~:~Search for bike stations by their name, a bike point's name often contains information about the name of the street\\r\\n            or nearby landmarks, for example. Note that the search result does not contain the PlaceProperties i.e. the status\\r\\n            or occupancy of the BikePoint, to get that information you should retrieve the BikePoint by its id on /BikePoint/id.~,~operationId~:~BikePoint_Search~,~parameters~:[\x7b~name~:~query~,~in~:~query~,~description~:~The search term e.g. \\~St. James\\~~,~required~:true,~schema~:\x7b~type~:~string~\x7d,~example~:~London~\x7d],~responses~:\x7b~200~:\x7b~description~:~OK~,~content~:\x7b~application/json~:\x7b~schema~:\x7b~$ref~:~#/components/schemas/Tfl-Api-Presentation-Entities-PlaceArray-4~\x7d\x7d,~text/json~:\x7b~schema~:\x7b~$ref~:~#/components/schemas/Tfl-Api-Presentation-Entities-PlaceArray-5~\x7d\x7d,~application/xml~:\x7b~schema~:\x7b~$ref~:~#/components/schemas/Tfl-Api-Presentation-Entities-PlaceArray-6~\x7d\x7d,~text/xml~:\x7b~schema~:\x7b~$ref~:~#/components/schemas/Tfl-Api-Presentation-Entities-PlaceArray-7~\x7d\x7d\x7d\x7d\x7d\x7d\x7d\x7d,~components~:\x7b~schemas~:\x7b~Tfl-Api-Presentation-Entities-PlaceArray~:\x7b~type~:~array~,~items~:\x7b~$ref~:~#/components/schemas/Tfl.Api.Presentation.Entities.Place~\x7d\x7d,~Tfl.Api.Presentation.Entities.Place~:\x7b~type~:~object~,~properties~:\x7b~id~:\x7b~type~:~string~,~description~:~A unique identifier.~\x7d,~url~:\x7b~type~:~string~,~description~:~The unique location of this resource.~\x7d,~commonName~:\x7b~type~:~string~,~description~:~A human readable name.~\x7d,~distance~:\x7b~type~:~number~,~description~:~The distance of the place from its search point, if this is the result\\r\\n            of a geographical search, otherwise zero.~,~format~:~double~\x7d,~placeType~:\x7b~type~:~string~,~description~:~The type of Place. See /Place/Meta/placeTypes for possible values.~\x7d,~additionalProperties~:\x7b~type~:~array~,~items~:\x7b~$ref~:~#/components/schemas/Tfl.Api.Presentation.Entities.AdditionalProperties~\x7d,~description~:~A bag of additional key/value pairs with extra information about this place.~\x7d,~children~:\x7b~type~:~array~,~items~:\x7b~$ref~:~#/components/schemas/Tfl.Api.Presentation.Entities.Place~\x7d\x7d,~childrenUrls~:\x7b~type~:~array~,~items~:\x7b~type~:~string~\x7d\x7d,~lat~:\x7b~type~:~number~,~description~:~WGS84 latitude of the location.~,~format~:~double~\x7d,~lon~:\x7b~type~:~number~,~description~:~WGS84 longitude of the location.~,~format~:~double~\x7d\x7d\x7d,~Tfl.Api.Presentation.Entities.AdditionalProperties~:\x7b~type~:~object~,~properties~:\x7b~category~:\x7b~type~:~string~\x7d,~key~:\x7b~type~:~string~\x7d,~sourceSystemKey~:\x7b~type~:~string~\x7d,~value~:\x7b~type~:~string~\x7d,~modified~:\x7b~type~:~string~,~format~:~date-time~\x7d\x7d\x7d,~Tfl-Api-Presentation-Entities-PlaceArray-1~:\x7b~type~:~array~,~items~:\x7b~$ref~:~#/components/schemas/Tfl.Api.Presentation.Entities.Place~\x7d\x7d,~Tfl-Api-Presentation-Entities-PlaceArray-2~:\x7b~type~:~array~,~items~:\x7b~$ref~:~#/components/schemas/Tfl.Api.Presentation.Entities.Place~\x7d\x7d,~Tfl-Api-Presentation-Entities-PlaceArray-3~:\x7b~type~:~array~,~items~:\x7b~$ref~:~#/components/schemas/Tfl.Api.Presentation.Entities.Place~\x7d\x7d,~Tfl-Api-Presentation-Entities-PlaceArray-4~:\x7b~type~:~array~,~items~:\x7b~$ref~:~#/components/schemas/Tfl.Api.Presentation.Entities.Place~\x7d\x7d,~Tfl-Api-Presentation-Entities-PlaceArray-5~:\x7b~type~:~array~,~items~:\x7b~$ref~:~#/components/schemas/Tfl.Api.Presentation.Entities.Place~\x7d\x7d,~Tfl-Api-Presentation-Entities-PlaceArray-6~:\x7b~type~:~array~,~items~:\x7b~$ref~:~#/components/schemas/Tfl.Api.Presentation.Entities.Place~\x7d\x7d,~Tfl-Api-Presentation-Entities-PlaceArray-7~:\x7b~type~:~array~,~items~:\x7b~$ref~:~#/components/schemas/Tfl.Api.Presentation.Entities.Place~\x7d\x7d\x7d,~securitySchemes~:\x7b~apiKeyHeader~:\x7b~type~:~apiKey~,~name~:~app_key~,~in~:~header~\x7d,~apiKeyQuery~:\x7b~type~:~apiKey~,~name~:~app_key~,~in~:~query~\x7d\x7d\x7d,~security~:[\x7b~apiKeyHeader~:[]\x7d,\x7b~apiKeyQuery~:[]\x7d]\x7d"),
  ("Disruptions-Lifts-v2",
   "\x7b~openapi~:~3.0.1~,~info~:\x7b~title~:~Lift Disruptions~,~description~:~APIs relating to Lift disruptions at Transport for London Stations~,~version~:~v2~\x7d,~servers~:[\x7b~url~:~https://api.tfl.gov.uk/Disruptions/Lifts/v2~\x7d],~paths~:\x7b~/~:\x7b~get~:\x7b~summary~:~Lift Disruptions~,~description~:~List of all currently disrupted lift routes~,~operationId~:~get~,~responses~:\x7b~200~:\x7b~description~:~Expected response~,~content~:\x7b~application/json~:\x7b~schema~:\x7b~$ref~:~#/components/schemas/Get200ApplicationJsonResponse~\x7d,~example~:[\x7b~icsCode~:~string~,~naptanCode~:~string~,~stopPointName~:~string~,~outageStartArea~:~string~,~outageEndArea~:~string~,~message~:~string~\x7d]\x7d\x7d\x7d\x7d\x7d\x7d\x7d,~components~:\x7b~schemas~:\x7b~LiftDisruption~:\x7b~type~:~object~,~properties~:\x7b~icsCode~:\x7b~type~:~string~,~description~:~Ics code for the disrupted lift route~\x7d,~naptanCode~:\x7b~type~:~string~,~description~:~Naptan code for the stop area of the disrupted lift route~\x7d,~stopPointName~:\x7b~type~:~string~,~description~:~Name of the stop point of the disrupted lift route~\x7d,~outageStartArea~:\x7b~type~:~string~,~description~:~Id for the start of the disrupted lift route~\x7d,~outageEndArea~:\x7b~type~:~string~,~description~:~Id for the end of the disrupted lift route~\x7d,~message~:\x7b~type~:~string~,~description~:~Customer facing message for the disrupted lift route~\x7d\x7d\x7d,~Get200ApplicationJsonResponse~:\x7b~type~:~array~,~items~:\x7b~$ref~:~#/components/schemas/LiftDisruption~\x7d\x7d\x7d,~securitySchemes~:\x7b~apiKeyHeader~:\x7b~type~:~apiKey~,~name~:~app_key~,~in~:~header~\x7d,~apiKeyQuery~:\x7b~type~:~apiKey~,~name~:~app_key~,~in~:~query~\x7d\x7d\x7d,~security~:[\x7b~apiKeyHeader~:[]\x7d,\x7b~apiKeyQuery~:[]\x7d]\x7d"),
  ("Journey",
   "\x7b~openapi~:~3.0.1~,~info~:\x7b~title~:~Journey~,~description~:~APIs relating to Journey and similar services~,~version~:~1.0~\x7d,~servers~:[\x7b~url~:~https://api.tfl.gov.uk/Journey~\x7d],~paths~:\x7b~/Meta/Modes~:\x7b~get~:\x7b~tags~:[~Journey~],~summary~:~Gets a list of all of the available journey planner modes~,~description~:~Gets a list of all of the available journey planner modes~,~operationId~:~Journey_Meta~,~responses~:\x7b~200~:\x7b~description~:~OK~,~content~:\x7b~application/json~:\x7b~schema~:\x7b~$ref~:~#/components/schemas/MetaModesGet200ApplicationJsonResponse~\x7d,~example~:[\x7b~isTflService~:true,~isFarePaying~:true,~isScheduledService~:true,~modeName~:~string~\x7d]\x7d,~text/json~:\x7b~schema~:\x7b~$ref~:~#/components/schemas/MetaModesGet200TextJsonResponse~\x7d,~example~:[\x7b~isTflService~:true,~isFarePaying~:true,~isScheduledService~:true,~modeName~:~string~\x7d]\x7d,~application/xml~:\x7b~schema~:\x7b~$ref~:~#/components/schemas/MetaModesGet200ApplicationXmlResponse~\x7d,~example~:~<MetaModesGet200ApplicationXmlResponse> <isTflService>true</isTflService> <isFarePaying>true</isFarePaying> <isScheduledService>true</isScheduledService> <modeName>string</modeName> </MetaModesGet200ApplicationXmlResponse>~\x7d,~text/xml~:\x7b~schema~:\x7b~$ref~:~#/components/schemas/MetaModesGet200TextXmlResponse~\x7d,~example~:~<MetaModesGet200TextXmlResponse> <isTflService>true</isTflService> <isFarePaying>true</isFarePaying> <isScheduledService>true</isScheduledService> <modeName>string</modeName> </MetaModesGet200TextXmlResponse>~\x7d\x7d\x7d\x7d\x7d\x7d,~/JourneyResults/\x7bfrom\x7d/to/\x7bto\x7d~:\x7b~get~:\x7b~tags~:[~Journey~],~summary~:~Perform a Journey Planner search from the parameters specified in simple types~,~description~:~Perform a Journey Planner search from the parameters specified in simple types~,~operationId~:~Journey_JourneyResultsByPathFromPathToQueryViaQueryNationalSearchQueryDateQu~,~parameters~:[\x7b~name~:~from~,~in~:~path~,~description~:~Origin of the journey. Can be WGS84 coordinates expressed as \\~lat,long\\~, a UK postcode, a Naptan (StopPoint) id, an ICS StopId, or a free-text string (will cause disambiguation unless it exactly matches a point of interest name).~,~required~:true,~schema~:\x7b~type~:~string~\x7d,~example~:1001116\x7d,\x7b~name~:~to~,~in~:~path~,~description~:~Destination of the journey. Can be WGS84 coordinates expressed as \\~lat,long\\~, a UK postcode, a Naptan (StopPoint) id, an ICS StopId, or a free-text string (will cause disambiguation unless it exactly matches a point of interest name).~,~required~:true,~schema~:\x7b~type~:~string~\x7d,~example~:1001949\x7d,\x7b~name~:~via~,~in~:~query~,~description~:~Travel through point on the journey. Can be WGS84 coordinates expressed as \\~lat,long\\~, a UK postcode, a Naptan (StopPoint) id, an ICS StopId, or a free-text string (will cause disambiguation unless it exactly matches a point of interest name).~,~schema~:\x7b~type~:~string~\x7d\x7d,\x7b~name~:~nationalSearch~,~in~:~query~,~description~:~Does the journey cover stops outside London? eg. \\~nationalSearch=true\\~~,~schema~:\x7b~type~:~boolean~\x7d\x7d,\x7b~name~:~date~,~in~:~query~,~description~:~The date must be in yyyyMMdd format~,~schema~:\x7b~type~:~string~\x7d\x7d,\x7b~name~:~time~,~in~:~query~,~description~:~The time must be in HHmm format~,~schema~:\x7b~type~:~string~\x7d\x7d,\x7b~name~:~timeIs~,~in~:~query~,~description~:~Does the time given relate to arrival or leaving time? Possible options: \\~departing\\~ | \\~arriving\\~~,~schema~:\x7b~enum~:[~Arriving~,~Departing~],~type~:~string~,~example~:~Arriving~\x7d\x7d,\x7b~name~:~journeyPreference~,~in~:~query~,~description~:~The journey preference eg possible options: \\~leastinterchange\\~ | \\~leasttime\\~ | \\~leastwalking\\~~,~schema~:\x7b~enum~:[~LeastInterchange~,~LeastTime~,~LeastWalking~],~type~:~string~,~example~:~LeastInterchange~\x7d\x7d,\x7b~name~:~mode~,~in~:~query~,~description~:~The mode must be a comma separated list of modes. eg possible options: \\~public-bus,overground,train,tube,coach,dlr,cablecar,tram,river,walking,cycle\\~~,~schema~:\x7b~type~:~array~\x7d\x7d,\x7b~name~:~accessibilityPreference~,~in~:~query~,~description~:~The accessibility preference must be a comma separated list eg. \\~noSolidStairs,noEscalators,noElevators,stepFreeToVehicle,stepFreeToPlatform\\~~,~schema~:\x7b~enum~:[~NoRequirements~,~NoSolidStairs~,~NoEscalators~,~NoElevators~,~StepFreeToVehicle~,~StepFreeToPlatform~],~type~:~string~\x7d,~example~:~NoRequirements~\x7d,\x7b~name~:~fromName~,~in~:~query~,~description~:~An optional name to associate with the origin of the journey in the results.~,~schema~:\x7b~type~:~string~\x7d\x7d,\x7b~name~:~toName~,~in~:~query~,~description~:~An optional name to associate with the destination of the journey in the results.~,~schema~:\x7b~type~:~string~\x7d\x7d,\x7b~name~:~viaName~,~in~:~query~,~description~:~An optional name to associate with the via point of the journey in the results.~,~schema~:\x7b~type~:~string~\x7d\x7d,\x7b~name~:~maxTransferMinutes~,~in~:~query~,~description~:~The max walking time in minutes for transfer eg. \\~120\\~~,~schema~:\x7b~type~:~string~\x7d\x7d,\x7b~name~:~maxWalkingMinutes~,~in~:~query~,~description~:~The max walking time in minutes for journeys eg. \\~120\\~~,~schema~:\x7b~type~:~string~\x7d\x7d,\x7b~name~:~walkingSpeed~,~in~:~query~,~description~:~The walking speed. eg possible options: \\~slow\\~ | \\~average\\~ | \\~fast\\~.~,~schema~:\x7b~enum~:[~Slow~,~Average~,~Fast~],~type~:~string~\x7d,~example~:~Fast~\x7d,\x7b~name~:~cyclePreference~,~in~:~query~,~description~:~The cycle preference. eg possible options: \\~allTheWay\\~ | \\~leaveAtStation\\~ | \\~takeOnTransport\\~ | \\~cycleHire\\~~,~schema~:\x7b~enum~:[~None~,~LeaveAtStation~,~TakeOnTransport~,~AllTheWay~,~CycleHire~],~type~:~string~\x7d\x7d,\x7b~name~:~adjustment~,~in~:~query~,~description~:~Time adjustment command. eg possible options: \\~TripFirst\\~ | \\~TripLast\\~~,~schema~:\x7b~type~:~string~\x7d\x7d,\x7b~name~:~bikeProficiency~,~in~:~query~,~description~:~A comma separated list of cycling proficiency levels. eg possible options: \\~easy,moderate,fast\\~~,~schema~:\x7b~enum~:[~Easy~,~Moderate~,~Fast~],~type~:~string~\x7d\x7d,\x7b~name~:~alternativeCycle~,~in~:~query~,~description~:~Option to determine whether to return alternative cycling journey~,~schema~:\x7b~type~:~boolean~\x7d\x7d,\x7b~name~:~alternativeWalking~,~in~:~query~,~description~:~Option to determine whether to return alternative walking journey~,~schema~:\x7b~type~:~boolean~\x7d\x7d,\x7b~name~:~applyHtmlMarkup~,~in~:~query~,~description~:~Flag to determine whether certain text (e.g. walking instructions) should be output with HTML tags or not.~,~schema~:\x7b~type~:~boolean~\x7d\x7d,\x7b~name~:~useMultiModalCall~,~in~:~query~,~description~:~A boolean to indicate whether or not to return 3 public transport journeys, a bus journey, a cycle hire journey, a personal cycle journey and a walking journey~,~schema~:\x7b~type~:~boolean~\x7d\x7d,\x7b~name~:~walkingOptimization~,~in~:~query~,~description~:~A boolean to indicate whether to optimize journeys using walking~,~schema~:\x7b~type~:~boolean~\x7d\x7d,\x7b~name~:~taxiOnlyTrip~,~in~:~query~,~description~:~A boolean to indicate whether to return one or more taxi journeys. Note, setting this to true will override \\~useMultiModalCall\\~.~,~schema~:\x7b~type~:~boolean~\x7d\x7d,\x7b~name~:~routeBetweenEntrances~,~in~:~query~,~description~:~A boolean to indicate whether public transport routes should include directions between platforms and station entrances.~,~schema~:\x7b~type~:~boolean~\x7d\x7d,\x7b~name~:~useRealTimeLiveArrivals~,~in~:~query~,~description~:~A boolean to indicate if we want to receive real time live arrivals data where available.~,~schema~:\x7b~type~:~boolean~\x7d\x7d,\x7b~name~:~calcOneDirection~,~in~:~query~,~description~:~A boolean to make Journey Planner calculate journeys in one temporal direction only. In other words, only calculate journeys after the 'depart' time, or before the 'arrive' time. By default, the Journey Planner engine (EFA) calculates journeys in both temporal directions.~,~schema~:\x7b~type~:~boolean~\x7d\x7d,\x7b~name~:~includeAlternativeRoutes~,~in~:~query~,~description~:~A boolean to make Journey Planner return alternative routes. Alternative routes are calculated by removing one or more lines included in the fastest route and re-calculating. By default, these journeys will not be returned.~,~schema~:\x7b~type~:~boolean~\x7d\x7d,\x7b~name~:~overrideMultiModalScenario~,~in~:~query~,~description~:~Format - int32. An optional integer to indicate what multi modal scenario we want to use.~,~schema~:\x7b~type~:~integer~,~format~:~int32~\x7d\x7d,\x7b~name~:~combineTransferLegs~,~in~:~query~,~description~:~A boolean to indicate whether walking leg to station entrance and walking leg from station entrance to platform should be combined. Defaults to true~,~schema~:\x7b~type~:~boolean~\x7d\x7d],~responses~:\x7b~200~:\x7b~description~:~OK~,~content~:\x7b~application/json~:\x7b~schema~:\x7b~$ref~:~#/components/schemas/Tfl-40~\x7d\x7d,~text/json~:\x7b~schema~:\x7b~$ref~:~#/components/schemas/Tfl-40~\x7d\x7d,~application/xml~:\x7b~schema~:\x7b~$ref~:~#/components/schemas/Tfl-40~\x7d\x7d,~text/xml~:\x7b~schema~:\x7b~$ref~:~#/components/schemas/Tfl-40~\x7d\x7d\x7d\x7d\x7d\x7d\x7d,~/*~:\x7b~get~:\x7b~tags~:[~StopPoint~],~summary~:~Forwards any remaining requests to the back-end~,~description~:~Forwards any remaining requests to the back-end~,~operationId~:~Forward_Proxy~,~responses~:\x7b~200~:\x7b~description~:~OK~,~content~:\x7b~application/json~:\x7b~schema~:\x7b~$ref~:~#/components/schemas/Get200ApplicationJsonResponse~\x7d\x7d\x7d\x7d\x7d\x7d\x7d\x7d,~components~:\x7b~schemas~:\x7b~Tfl~:\x7b~type~:~object~,~properties~:\x7b~isTflService~:\x7b~type~:~boolean~\x7d,~isFarePaying~:\x7b~type~:~boolean~\x7d,~isScheduledService~:\x7b~type~:~boolean~\x7d,~modeName~:\x7b~type~:~string~\x7d\x7d\x7d,~Tfl-2~:\x7b~type~:~object~,~properties~:\x7b~name~:\x7b~type~:~string~\x7d,~value~:\x7b~type~:~string~\x7d\x7d\x7d,~Tfl-3~:\x7b~type~:~object~,~properties~:\x7b~description~:\x7b~type~:~string~\x7d,~turnDirection~:\x7b~type~:~string~\x7d,~streetName~:\x7b~type~:~string~\x7d,~distance~:\x7b~type~:~integer~,~format~:~int32~\x7d,~cumulativeDistance~:\x7b~type~:~integer~,~format~:~int32~\x7d,~skyDirection~:\x7b~type~:~integer~,~format~:~int32~\x7d,~skyDirectionDescription~:\x7b~enum~:[~North~,~NorthEast~,~East~,~SouthEast~,~South~,~SouthWest~,~West~,~NorthWest~],~type~:~string~\x7d,~cumulativeTravelTime~:\x7b~type~:~integer~,~format~:~int32~\x7d,~latitude~:\x7b~type~:~number~,~format~:~double~\x7d,~longitude~:\x7b~type~:~number~,~format~:~double~\x7d,~pathAttribute~:\x7b~$ref~:~#/components/schemas/Tfl-2~\x7d,~descriptionHeading~:\x7b~type~:~string~\x7d,~trackType~:\x7b~enum~:[~CycleSuperHighway~,~CanalTowpath~,~QuietRoad~,~ProvisionForCyclists~,~BusyRoads~,~None~,~PushBike~,~Quietway~],~type~:~string~\x7d\x7d\x7d,~Tfl-4~:\x7b~type~:~object~,~properties~:\x7b~summary~:\x7b~type~:~string~\x7d,~detailed~:\x7b~type~:~string~\x7d,~steps~:\x7b~type~:~array~,~items~:\x7b~$ref~:~#/components/schemas/Tfl-3~\x7d\x7d\x7d\x7d,~Tfl-5~:\x7b~type~:~object~,~properties~:\x7b~type~:\x7b~type~:~string~\x7d,~incline~:\x7b~type~:~string~\x7d,~stopId~:\x7b~type~:~integer~,~format~:~int32~\x7d,~position~:\x7b~type~:~string~\x7d\x7d\x7d,~Tfl-6~:\x7b~type~:~object~,~properties~:\x7b~lat~:\x7b~type~:~number~,~description~:~WGS84 latitude of the location.~,~format~:~double~\x7d,~lon~:\x7b~type~:~number~,~description~:~WGS84 longitude of the location.~,~format~:~double~\x7d\x7d,~description~:~Represents a point located at a latitude and longitude using the WGS84 co-ordinate system.~\x7d,~Tfl-7~:\x7b~type~:~object~,~properties~:\x7b~timeSlice~:\x7b~type~:~string~,~description~:~Time in 24hr format with 15 minute intervals e.g. 0500-0515, 0515-0530 etc.~\x7d,~value~:\x7b~type~:~integer~,~description~:~Count of passenger flow towards a platform~,~format~:~int32~\x7d\x7d\x7d,~Tfl-8~:\x7b~type~:~object~,~properties~:\x7b~line~:\x7b~type~:~string~,~description~:~The Line Name e.g. \\~Victoria\\~~\x7d,~lineDirection~:\x7b~type~:~string~,~description~:~Direction of the Line e.g. NB, SB, WB etc.~\x7d,~platformDirection~:\x7b~type~:~string~,~description~:~Direction displayed on the platform e.g. NB, SB, WB etc.~\x7d,~direction~:\x7b~type~:~string~,~description~:~Direction in regards to Journey Planner i.e. inbound or outbound~\x7d,~naptanTo~:\x7b~type~:~string~,~description~:~Naptan of the adjacent station~\x7d,~timeSlice~:\x7b~type~:~string~,~description~:~Time in 24hr format with 15 minute intervals e.g. 0500-0515, 0515-0530 etc.~\x7d,~value~:\x7b~type~:~integer~,~description~:~Scale between 1-6, \\r\\n             1 = Very quiet, 2 = Quiet, 3 = Fairly busy, 4 = Busy, 5 = Very busy, 6 = Exceptionally busy~,~format~:~int32~\x7d\x7d\x7d,~Tfl-9~:\x7b~type~:~object~,~properties~:\x7b~passengerFlows~:\x7b~type~:~array~,~items~:\x7b~$ref~:~#/components/schemas/Tfl-7~\x7d,~description~:~Busiest times at a station (static information)~\x7d,~trainLoadings~:\x7b~type~:~array~,~items~:\x7b~$ref~:~#/components/schemas/Tfl-8~\x7d,~description~:~Train Loading on a scale 1-6, 1 being \\~Very quiet\\~ and 6 being \\~Exceptionally busy\\~ (static information)~\x7d\x7d\x7d,~Tfl-10~:\x7b~type~:~object~,~properties~:\x7b~id~:\x7b~type~:~string~\x7d,~name~:\x7b~type~:~string~\x7d,~uri~:\x7b~type~:~string~\x7d,~fullName~:\x7b~type~:~string~\x7d,~type~:\x7b~type~:~string~\x7d,~crowding~:\x7b~$ref~:~#/components/schemas/Tfl-9~\x7d,~routeType~:\x7b~enum~:[~Unknown~,~All~,~Cycle Superhighways~,~Quietways~,~Cycleways~,~Mini-Hollands~,~Central London Grid~,~Streetspace Route~],~type~:~string~\x7d,~status~:\x7b~enum~:[~Unknown~,~All~,~Open~,~In Progress~,~Planned~,~Planned - Subject to feasibility and consultation.~,~Not Open~],~type~:~string~\x7d\x7d\x7d,~Tfl-11~:\x7b~type~:~object~,~properties~:\x7b~distance~:\x7b~type~:~integer~,~format~:~int32~\x7d,~startLat~:\x7b~type~:~number~,~format~:~double~\x7d,~startLon~:\x7b~type~:~number~,~format~:~double~\x7d,~endLat~:\x7b~type~:~number~,~format~:~double~\x7d,~endLon~:\x7b~type~:~number~,~format~:~double~\x7d,~heightFromPreviousPoint~:\x7b~type~:~integer~,~format~:~int32~\x7d,~gradient~:\x7b~type~:~number~,~format~:~double~\x7d\x7d\x7d,~Tfl-12~:\x7b~type~:~object~,~properties~:\x7b~lineString~:\x7b~type~:~string~\x7d,~stopPoints~:\x7b~type~:~array~,~items~:\x7b~$ref~:~#/components/schemas/Tfl-10~\x7d\x7d,~elevation~:\x7b~type~:~array~,~items~:\x7b~$ref~:~#/components/schemas/Tfl-11~\x7d\x7d\x7d\x7d,~Tfl-13~:\x7b~type~:~object~,~properties~:\x7b~id~:\x7b~type~:~string~,~description~:~The Id of the route~\x7d,~name~:\x7b~type~:~string~,~description~:~Name such as \\~72\\~~\x7d,~directions~:\x7b~type~:~array~,~items~:\x7b~type~:~string~\x7d\x7d,~lineIdentifier~:\x7b~$ref~:~#/components/schemas/Tfl-10~\x7d\x7d\x7d,~Tfl-14~:\x7b~type~:~object~,~properties~:\x7b~naptanIdReference~:\x7b~type~:~string~\x7d,~stationAtcoCode~:\x7b~type~:~string~\x7d,~lineIdentifier~:\x7b~type~:~array~,~items~:\x7b~type~:~string~\x7d\x7d\x7d\x7d,~Tfl-15~:\x7b~type~:~object~,~properties~:\x7b~modeName~:\x7b~type~:~string~\x7d,~lineIdentifier~:\x7b~type~:~array~,~items~:\x7b~type~:~string~\x7d\x7d\x7d\x7d,~Tfl-16~:\x7b~type~:~object~,~properties~:\x7b~category~:\x7b~type~:~string~\x7d,~key~:\x7b~type~:~string~\x7d,~sourceSystemKey~:\x7b~type~:~string~\x7d,~value~:\x7b~type~:~string~\x7d,~modified~:\x7b~type~:~string~,~format~:~date-time~\x7d\x7d\x7d,~Tfl-17~:\x7b~type~:~object~,~properties~:\x7b~id~:\x7b~type~:~string~,~description~:~A unique identifier.~\x7d,~url~:\x7b~type~:~string~,~description~:~The unique location of this resource.~\x7d,~commonName~:\x7b~type~:~string~,~description~:~A human readable name.~\x7d,~distance~:\x7b~type~:~number~,~description~:~The distance of the place from its search point, if this is the result\\r\\n            of a geographical search, otherwise zero.~,~format~:~double~\x7d,~placeType~:\x7b~type~:~string~,~description~:~The type of Place. See /Place/Meta/placeTypes for possible values.~\x7d,~additionalProperties~:\x7b~type~:~array~,~items~:\x7b~$ref~:~#/components/schemas/Tfl-16~\x7d,~description~:~A bag of additional key/value pairs with extra information about this place.~\x7d,~children~:\x7b~type~:~array~,~items~:\x7b~$ref~:~#/components/schemas/Tfl-17~\x7d\x7d,~childrenUrls~:\x7b~type~:~array~,~items~:\x7b~type~:~string~\x7d\x7d,~lat~:\x7b~type~:~number~,~description~:~WGS84 latitude of the location.~,~format~:~double~\x7d,~lon~:\x7b~type~:~number~,~description~:~WGS84 longitude of the location.~,~format~:~double~\x7d\x7d\x7d,~Tfl-18~:\x7b~type~:~object~,~properties~:\x7b~naptanId~:\x7b~type~:~string~\x7d,~platformName~:\x7b~type~:~string~\x7d,~indicator~:\x7b~type~:~string~,~description~:~The indicator of the stop point e.g. \\~Stop K\\~~\x7d,~stopLetter~:\x7b~type~:~string~,~description~:~The stop letter, if it could be cleansed from the Indicator e.g. \\~K\\~~\x7d,~modes~:\x7b~type~:~array~,~items~:\x7b~type~:~string~\x7d\x7d,~icsCode~:\x7b~type~:~string~\x7d,~smsCode~:\x7b~type~:~string~\x7d,~stopType~:\x7b~type~:~string~\x7d,~stationNaptan~:\x7b~type~:~string~\x7d,~accessibilitySummary~:\x7b~type~:~string~\x7d,~hubNaptanCode~:\x7b~type~:~string~\x7d,~lines~:\x7b~type~:~array~,~items~:\x7b~$ref~:~#/components/schemas/Tfl-10~\x7d\x7d,~lineGroup~:\x7b~type~:~array~,~items~:\x7b~$ref~:~#/components/schemas/Tfl-14~\x7d\x7d,~lineModeGroups~:\x7b~type~:~array~,~items~:\x7b~$ref~:~#/components/schemas/Tfl-15~\x7d\x7d,~fullName~:\x7b~type~:~string~\x7d,~naptanMode~:\x7b~type~:~string~\x7d,~status~:\x7b~type~:~boolean~\x7d,~id~:\x7b~type~:~string~,~description~:~A unique identifier.~\x7d,~url~:\x7b~type~:~string~,~description~:~The unique location of this resource.~\x7d,~commonName~:\x7b~type~:~string~,~description~:~A human readable name.~\x7d,~distance~:\x7b~type~:~number~,~description~:~The distance of the place from its search point, if this is the result\\r\\n            of a geographical search, otherwise zero.~,~format~:~double~\x7d,~placeType~:\x7b~type~:~string~,~description~:~The type of Place. See /Place/Meta/placeTypes for possible values.~\x7d,~additionalProperties~:\x7b~type~:~array~,~items~:\x7b~$ref~:~#/components/schemas/Tfl-16~\x7d,~description~:~A bag of additional key/value pairs with extra information about this place.~\x7d,~children~:\x7b~type~:~array~,~items~:\x7b~$ref~:~#/components/schemas/Tfl-17~\x7d\x7d,~childrenUrls~:\x7b~type~:~array~,~items~:\x7b~type~:~string~\x7d\x7d,~lat~:\x7b~type~:~number~,~description~:~WGS84 latitude of the location.~,~format~:~double~\x7d,~lon~:\x7b~type~:~number~,~description~:~WGS84 longitude of the location.~,~format~:~double~\x7d\x7d\x7d,~Tfl-19~:\x7b~type~:~object~,~properties~:\x7b~ordinal~:\x7b~type~:~integer~,~format~:~int32~\x7d,~stopPoint~:\x7b~$ref~:~#/components/schemas/Tfl-18~\x7d\x7d\x7d,~Tfl-20~:\x7b~type~:~object~,~properties~:\x7b~id~:\x7b~type~:~string~,~description~:~The Id of the route~\x7d,~lineId~:\x7b~type~:~string~,~description~:~The Id of the Line~\x7d,~routeCode~:\x7b~type~:~string~,~description~:~The route code~\x7d,~name~:\x7b~type~:~string~,~description~:~Name such as \\~72\\~~\x7d,~lineString~:\x7b~type~:~string~,~description~:~The co-ordinates of the route's path as a geoJSON lineString~\x7d,~direction~:\x7b~type~:~string~,~description~:~Inbound or Outbound~\x7d,~originationName~:\x7b~type~:~string~,~description~:~The name of the Origin StopPoint~\x7d,~destinationName~:\x7b~type~:~string~,~description~:~The name of the Destination StopPoint~\x7d,~validTo~:\x7b~type~:~string~,~description~:~The DateTime that the Service containing this Route is valid until.~,~format~:~date-time~\x7d,~validFrom~:\x7b~type~:~string~,~description~:~The DateTime that the Service containing this Route is valid from.~,~format~:~date-time~\x7d,~routeSectionNaptanEntrySequence~:\x7b~type~:~array~,~items~:\x7b~$ref~:~#/components/schemas/Tfl-19~\x7d\x7d\x7d\x7d,~Tfl-21~:\x7b~type~:~object~,~properties~:\x7b~category~:\x7b~enum~:[~Undefined~,~RealTime~,~PlannedWork~,~Information~,~Event~,~Crowding~,~StatusAlert~],~type~:~string~,~description~:~Gets or sets the category of this dispruption.~\x7d,~type~:\x7b~type~:~string~,~description~:~Gets or sets the disruption type of this dispruption.~\x7d,~categoryDescription~:\x7b~type~:~string~,~description~:~Gets or sets the description of the category.~\x7d,~description~:\x7b~type~:~string~,~description~:~Gets or sets the description of this disruption.~\x7d,~summary~:\x7b~type~:~string~,~description~:~Gets or sets the summary of this disruption.~\x7d,~additionalInfo~:\x7b~type~:~string~,~description~:~Gets or sets the additionaInfo of this disruption.~\x7d,~created~:\x7b~type~:~string~,~description~:~Gets or sets the date/time when this disruption was created.~,~format~:~date-time~\x7d,~lastUpdate~:\x7b~type~:~string~,~description~:~Gets or sets the date/time when this disruption was last updated.~,~format~:~date-time~\x7d,~affectedRoutes~:\x7b~type~:~array~,~items~:\x7b~$ref~:~#/components/schemas/Tfl-20~\x7d,~description~:~Gets or sets the routes affected by this disruption~\x7d,~affectedStops~:\x7b~type~:~array~,~items~:\x7b~$ref~:~#/components/schemas/Tfl-18~\x7d,~description~:~Gets or sets the stops affected by this disruption~\x7d,~closureText~:\x7b~type~:~string~,~description~:~Text describing the closure type~\x7d\x7d,~description~:~Represents a disruption to a route within the transport network.~\x7d,~Tfl-22~:\x7b~type~:~object~,~properties~:\x7b~id~:\x7b~type~:~string~\x7d,~description~:\x7b~type~:~string~\x7d,~createdDateTime~:\x7b~type~:~string~,~format~:~date-time~\x7d,~lastUpdateDateTime~:\x7b~type~:~string~,~format~:~date-time~\x7d\x7d\x7d,~Tfl-23~:\x7b~type~:~object~,~properties~:\x7b~duration~:\x7b~type~:~integer~,~format~:~int32~\x7d,~speed~:\x7b~type~:~string~\x7d,~instruction~:\x7b~$ref~:~#/components/schemas/Tfl-4~\x7d,~obstacles~:\x7b~type~:~array~,~items~:\x7b~$ref~:~#/components/schemas/Tfl-5~\x7d\x7d,~departureTime~:\x7b~type~:~string~,~format~:~date-time~\x7d,~arrivalTime~:\x7b~type~:~string~,~format~:~date-time~\x7d,~departurePoint~:\x7b~$ref~:~#/components/schemas/Tfl-6~\x7d,~arrivalPoint~:\x7b~$ref~:~#/components/schemas/Tfl-6~\x7d,~path~:\x7b~$ref~:~#/components/schemas/Tfl-12~\x7d,~routeOptions~:\x7b~type~:~array~,~items~:\x7b~$ref~:~#/components/schemas/Tfl-13~\x7d\x7d,~mode~:\x7b~$ref~:~#/components/schemas/Tfl-10~\x7d,~disruptions~:\x7b~type~:~array~,~items~:\x7b~$ref~:~#/components/schemas/Tfl-21~\x7d\x7d,~plannedWorks~:\x7b~type~:~array~,~items~:\x7b~$ref~:~#/components/schemas/Tfl-22~\x7d\x7d,~distance~:\x7b~type~:~number~,~format~:~double~\x7d,~isDisrupted~:\x7b~type~:~boolean~,~readOnly~:true\x7d,~hasFixedLocations~:\x7b~type~:~boolean~,~readOnly~:true\x7d\x7d\x7d,~Tfl-24~:\x7b~type~:~object~,~properties~:\x7b~modeType~:\x7b~type~:~string~\x7d,~validationType~:\x7b~type~:~string~\x7d,~hostDeviceType~:\x7b~type~:~string~\x7d,~busRouteId~:\x7b~type~:~string~\x7d,~nationalLocationCode~:\x7b~type~:~integer~,~format~:~int32~\x7d,~tapTimestamp~:\x7b~type~:~string~,~format~:~date-time~\x7d\x7d\x7d,~Tfl-25~:\x7b~type~:~object~,~properties~:\x7b~atcoCode~:\x7b~type~:~string~\x7d,~tapDetails~:\x7b~$ref~:~#/components/schemas/Tfl-24~\x7d\x7d\x7d,~Tfl-26~:\x7b~type~:~object~,~properties~:\x7b~lowZone~:\x7b~type~:~integer~,~format~:~int32~\x7d,~highZone~:\x7b~type~:~integer~,~format~:~int32~\x7d,~cost~:\x7b~type~:~integer~,~format~:~int32~\x7d,~chargeProfileName~:\x7b~type~:~string~\x7d,~isHopperFare~:\x7b~type~:~boolean~\x7d,~chargeLevel~:\x7b~type~:~string~\x7d,~peak~:\x7b~type~:~integer~,~format~:~int32~\x7d,~offPeak~:\x7b~type~:~integer~,~format~:~int32~\x7d,~taps~:\x7b~type~:~array~,~items~:\x7b~$ref~:~#/components/schemas/Tfl-25~\x7d\x7d\x7d\x7d,~Tfl-27~:\x7b~type~:~object~,~properties~:\x7b~text~:\x7b~type~:~string~\x7d,~type~:\x7b~type~:~string~\x7d\x7d\x7d,~Tfl-28~:\x7b~type~:~object~,~properties~:\x7b~totalCost~:\x7b~type~:~integer~,~format~:~int32~\x7d,~fares~:\x7b~type~:~array~,~items~:\x7b~$ref~:~#/components/schemas/Tfl-26~\x7d\x7d,~caveats~:\x7b~type~:~array~,~items~:\x7b~$ref~:~#/components/schemas/Tfl-27~\x7d\x7d\x7d\x7d,~Tfl-29~:\x7b~type~:~object~,~properties~:\x7b~startDateTime~:\x7b~type~:~string~,~format~:~date-time~\x7d,~duration~:\x7b~type~:~integer~,~format~:~int32~\x7d,~arrivalDateTime~:\x7b~type~:~string~,~format~:~date-time~\x7d,~legs~:\x7b~type~:~array~,~items~:\x7b~$ref~:~#/components/schemas/Tfl-23~\x7d\x7d,~fare~:\x7b~$ref~:~#/components/schemas/Tfl-28~\x7d\x7d,~description~:~Object that represents an end to end journey (see schematic).~\x7d,~Tfl-30~:\x7b~type~:~object~,~properties~:\x7b~fromDate~:\x7b~type~:~string~,~description~:~Gets or sets the start date.~,~format~:~date-time~\x7d,~toDate~:\x7b~type~:~string~,~description~:~Gets or sets the end date.~,~format~:~date-time~\x7d,~isNow~:\x7b~type~:~boolean~,~description~:~If true is a realtime status rather than planned or info~\x7d\x7d,~description~:~Represents a period for which a planned works is valid.~\x7d,~Tfl-31~:\x7b~type~:~object~,~properties~:\x7b~id~:\x7b~type~:~integer~,~format~:~int32~\x7d,~lineId~:\x7b~type~:~string~\x7d,~statusSeverity~:\x7b~type~:~integer~,~format~:~int32~\x7d,~statusSeverityDescription~:\x7b~type~:~string~\x7d,~reason~:\x7b~type~:~string~\x7d,~created~:\x7b~type~:~string~,~format~:~date-time~\x7d,~modified~:\x7b~type~:~string~,~format~:~date-time~\x7d,~validityPeriods~:\x7b~type~:~array~,~items~:\x7b~$ref~:~#/components/schemas/Tfl-30~\x7d\x7d,~disruption~:\x7b~$ref~:~#/components/schemas/Tfl-21~\x7d\x7d\x7d,~Tfl-32~:\x7b~type~:~object~,~properties~:\x7b~routeCode~:\x7b~type~:~string~,~description~:~The route code~\x7d,~name~:\x7b~type~:~string~,~description~:~Name such as \\~72\\~~\x7d,~direction~:\x7b~type~:~string~,~description~:~Inbound or Outbound~\x7d,~originationName~:\x7b~type~:~string~,~description~:~The name of the Origin StopPoint~\x7d,~destinationName~:\x7b~type~:~string~,~description~:~The name of the Destination StopPoint~\x7d,~originator~:\x7b~type~:~string~,~description~:~The Id (NaPTAN code) of the Origin StopPoint~\x7d,~destination~:\x7b~type~:~string~,~description~:~The Id (NaPTAN code) or the Destination StopPoint~\x7d,~serviceType~:\x7b~type~:~string~,~description~:~Regular or Night~\x7d,~validTo~:\x7b~type~:~string~,~description~:~The DateTime that the Service containing this Route is valid until.~,~format~:~date-time~\x7d,~validFrom~:\x7b~type~:~string~,~description~:~The DateTime that the Service containing this Route is valid from.~,~format~:~date-time~\x7d\x7d,~description~:~Description of a Route used in Route search results.~\x7d,~Tfl-33~:\x7b~type~:~object~,~properties~:\x7b~name~:\x7b~type~:~string~\x7d,~uri~:\x7b~type~:~string~\x7d\x7d\x7d,~Tfl-34~:\x7b~type~:~object~,~properties~:\x7b~id~:\x7b~type~:~string~\x7d,~name~:\x7b~type~:~string~\x7d,~modeName~:\x7b~type~:~string~\x7d,~disruptions~:\x7b~type~:~array~,~items~:\x7b~$ref~:~#/components/schemas/Tfl-21~\x7d\x7d,~created~:\x7b~type~:~string~,~format~:~date-time~\x7d,~modified~:\x7b~type~:~string~,~format~:~date-time~\x7d,~lineStatuses~:\x7b~type~:~array~,~items~:\x7b~$ref~:~#/components/schemas/Tfl-31~\x7d\x7d,~routeSections~:\x7b~type~:~array~,~items~:\x7b~$ref~:~#/components/schemas/Tfl-32~\x7d\x7d,~serviceTypes~:\x7b~type~:~array~,~items~:\x7b~$ref~:~#/components/schemas/Tfl-33~\x7d\x7d,~crowding~:\x7b~$ref~:~#/components/schemas/Tfl-9~\x7d\x7d\x7d,~Tfl-35~:\x7b~type~:~object~,~properties~:\x7b~originNumberOfBikes~:\x7b~type~:~integer~,~format~:~int32~\x7d,~destinationNumberOfBikes~:\x7b~type~:~integer~,~format~:~int32~\x7d,~originNumberOfEmptySlots~:\x7b~type~:~integer~,~format~:~int32~\x7d,~destinationNumberOfEmptySlots~:\x7b~type~:~integer~,~format~:~int32~\x7d,~originId~:\x7b~type~:~string~\x7d,~destinationId~:\x7b~type~:~string~\x7d\x7d\x7d,~Tfl-36~:\x7b~type~:~object~,~properties~:\x7b~date~:\x7b~type~:~string~\x7d,~time~:\x7b~type~:~string~\x7d,~timeIs~:\x7b~type~:~string~\x7d,~uri~:\x7b~type~:~string~\x7d\x7d\x7d,~Tfl-37~:\x7b~type~:~object~,~properties~:\x7b~earliest~:\x7b~$ref~:~#/components/schemas/Tfl-36~\x7d,~earlier~:\x7b~$ref~:~#/components/schemas/Tfl-36~\x7d,~later~:\x7b~$ref~:~#/components/schemas/Tfl-36~\x7d,~latest~:\x7b~$ref~:~#/components/schemas/Tfl-36~\x7d\x7d\x7d,~Tfl-38~:\x7b~type~:~object~,~properties~:\x7b~dateTime~:\x7b~type~:~string~,~format~:~date-time~\x7d,~dateTimeType~:\x7b~enum~:[~Arriving~,~Departing~],~type~:~string~\x7d,~timeAdjustments~:\x7b~$ref~:~#/components/schemas/Tfl-37~\x7d\x7d\x7d,~Tfl-39~:\x7b~type~:~object~,~properties~:\x7b~from~:\x7b~type~:~string~\x7d,~to~:\x7b~type~:~string~\x7d,~via~:\x7b~type~:~string~\x7d,~uri~:\x7b~type~:~string~\x7d\x7d\x7d,~Tfl-40~:\x7b~type~:~object~,~properties~:\x7b~journeys~:\x7b~type~:~array~,~items~:\x7b~$ref~:~#/components/schemas/Tfl-29~\x7d\x7d,~lines~:\x7b~type~:~array~,~items~:\x7b~$ref~:~#/components/schemas/Tfl-34~\x7d\x7d,~cycleHireDockingStationData~:\x7b~$ref~:~#/components/schemas/Tfl-35~\x7d,~stopMessages~:\x7b~type~:~array~,~items~:\x7b~type~:~string~\x7d\x7d,~recommendedMaxAgeMinutes~:\x7b~type~:~integer~,~format~:~int32~\x7d,~searchCriteria~:\x7b~$ref~:~#/components/schemas/Tfl-38~\x7d,~journeyVector~:\x7b~$ref~:~#/components/schemas/Tfl-39~\x7d\x7d,~description~:~A DTO representing a list of possible journeys.~\x7d,~MetaModesGet200ApplicationJsonResponse~:\x7b~type~:~array~,~items~:\x7b~$ref~:~#/components/schemas/Tfl~\x7d\x7d,~MetaModesGet200TextJsonResponse~:\x7b~type~:~array~,~items~:\x7b~$ref~:~#/components/schemas/Tfl~\x7d\x7d,~MetaModesGet200ApplicationXmlResponse~:\x7b~type~:~array~,~items~:\x7b~$ref~:~#/components/schemas/Tfl~\x7d\x7d,~MetaModesGet200TextXmlResponse~:\x7b~type~:~array~,~items~:\x7b~$ref~:~#/components/schemas/Tfl~\x7d\x7d,~Get200ApplicationJsonResponse~:\x7b~type~:~object~\x7d\x7d,~securitySchemes~:\x7b~apiKeyHeader~:\x7b~type~:~apiKey~,~name~:~app_key~,~in~:~header~\x7d,~apiKeyQuery~:\x7b~type~:~apiKey~,~name~:~app_key~,~in~:~query~\x7d\x7d\x7d,~security~:[\x7b~apiKeyHeader~:[]\x7d,\x7b~apiKeyQuery~:[]\x7d]\x7d"),
  ("Line",
   "\x7b~openapi~:~3.0.1~,~info~:\x7b~title~:~Line~,~description~:~APIs relating to Line and similar services~,~version~:~1.0~\x7d,~servers~:[\x7b~url~:~https://api.tfl.gov.uk/Line~\x7d],~paths~:\x7b~/Meta/Modes~:\x7b~get~:\x7b~tags~:[~Line~],~summary~:~Gets a list of valid modes~,~description~:~Gets a list of valid modes~,~operationId~:~Line_MetaModes~,~responses~:\x7b~200~:\x7b~description~:~OK~,~content~:\x7b~application/json~:\x7b~schema~:\x7b~$ref~:~#/components/schemas/MetaModesGet200ApplicationJsonResponse~\x7d,~example~:[\x7b~isTflService~:true,~isFarePaying~:true,~isScheduledService~:true,~modeName~:~string~\x7d]\x7d,~text/json~:\x7b~schema~:\x7b~$ref~:~#/components/schemas/MetaModesGet200TextJsonResponse~\x7d,~example~:[\x7b~isTflService~:true,~isFarePaying~:true,~isScheduledService~:true,~modeName~:~string~\x7d]\x7d,~application/xml~:\x7b~schema~:\x7b~$ref~:~#/components/schemas/MetaModesGet200ApplicationXmlResponse~\x7d,~example~:~<MetaModesGet200ApplicationXmlResponse> <isTflService>true</isTflService> <isFarePaying>true</isFarePaying> <isScheduledService>true</isScheduledService> <modeName>string</modeName> </MetaModesGet200ApplicationXmlResponse>~\x7d,~text/xml~:\x7b~schema~:\x7b~$ref~:~#/components/schemas/MetaModesGet200TextXmlResponse~\x7d,~example~:~<MetaModesGet200TextXmlResponse> <isTflService>true</isTflService> <isFarePaying>true</isFarePaying> <isScheduledService>true</isScheduledService> <modeName>string</modeName> </MetaModesGet200TextXmlResponse>~\x7d\x7d\x7d\x7d\x7d\x7d,~/Meta/Severity~:\x7b~get~:\x7b~tags~:[~Line~],~summary~:~Gets a list of valid severity codes~,~description~:~Gets a list of valid severity codes~,~operationId~:~Line_MetaSeverity~,~responses~:\x7b~200~:\x7b~description~:~OK~,~content~:\x7b~application/json~:\x7b~schema~:\x7b~$ref~:~#/components/schemas/MetaSeverityGet200ApplicationJsonResponse~\x7d,~example~:[\x7b~modeName~:~string~,~severityLevel~:0,~description~:~string~\x7d]\x7d,~text/json~:\x7b~schema~:\x7b~$ref~:~#/components/schemas/MetaSeverityGet200TextJsonResponse~\x7d,~example~:[\x7b~modeName~:~string~,~severityLevel~:0,~description~:~string~\x7d]\x7d,~application/xml~:\x7b~schema~:\x7b~$ref~:~#/components/schemas/MetaSeverityGet200ApplicationXmlResponse~\x7d,~example~:~<MetaSeverityGet200ApplicationXmlResponse> <modeName>string</modeName> <severityLevel>0</severityLevel> <description>string</description> </MetaSeverityGet200ApplicationXmlResponse>~\x7d,~text/xml~:\x7b~schema~:\x7b~$ref~:~#/components/schemas/MetaSeverityGet200TextXmlResponse~\x7d,~example~:~<MetaSeverityGet200TextXmlResponse> <modeName>string</modeName> <severityLevel>0</severityLevel> <description>string</description> </MetaSeverityGet200TextXmlResponse>~\x7d\x7d\x7d\x7d\x7d\x7d,~/Meta/DisruptionCategories~:\x7b~get~:\x7b~tags~:[~Line~],~summary~:~Gets a list of valid disruption categories~,~description~:~Gets a list of valid disruption categories~,~operationId~:~Line_MetaDisruptionCategories~,~responses~:\x7b~200~:\x7b~description~:~OK~,~content~:\x7b~application/json~:\x7b~schema~:\x7b~$ref~:~#/components/schemas/MetaDisruptionCategoriesGet200ApplicationJsonResponse~\x7d,~example~:[~string~]\x7d,~text/json~:\x7b~schema~:\x7b~$ref~:~#/components/schemas/MetaDisruptionCategoriesGet200TextJsonResponse~\x7d,~example~:[~string~]\x7d,~application/xml~:\x7b~schema~:\x7b~$ref~:~#/components/schemas/MetaDisruptionCategoriesGet200ApplicationXmlResponse~\x7d,~example~:~<MetaDisruptionCategoriesGet200ApplicationXmlResponse>string</MetaDisruptionCategoriesGet200ApplicationXmlResponse>~\x7d,~text/xml~:\x7b~schema~:\x7b~$ref~:~#/components/schemas/MetaDisruptionCategoriesGet200TextXmlResponse~\x7d,~example~:~<MetaDisruptionCategoriesGet200TextXmlResponse>string</MetaDisruptionCategoriesGet200TextXmlResponse>~\x7d\x7d\x7d\x7d\x7d\x7d,~/Meta/ServiceTypes~:\x7b~get~:\x7b~tags~:[~Line~],~summary~:~Gets a list of valid ServiceTypes to filter on~,~description~:~Gets a list of valid ServiceTypes to filter on~,~operationId~:~Line_MetaServiceTypes~,~responses~:\x7b~200~:\x7b~description~:~OK~,~content~:\x7b~application/json~:\x7b~schema~:\x7b~$ref~:~#/components/schemas/MetaServiceTypesGet200ApplicationJsonResponse~\x7d,~example~:[~string~]\x7d,~text/json~:\x7b~schema~:\x7b~$ref~:~#/components/schemas/MetaServiceTypesGet200TextJsonResponse~\x7d,~example~:[~string~]\x7d,~application/xml~:\x7b~schema~:\x7b~$ref~:~#/components/schemas/MetaServiceTypesGet200ApplicationXmlResponse~\x7d,~example~:~<MetaServiceTypesGet200ApplicationXmlResponse>string</MetaServiceTypesGet200ApplicationXmlResponse>~\x7d,~text/xml~:\x7b~schema~:\x7b~$ref~:~#/components/schemas/MetaServiceTypesGet200TextXmlResponse~\x7d,~example~:~<MetaServiceTypesGet200TextXmlResponse>string</MetaServiceTypesGet200TextXmlResponse>~\x7d\x7d\x7d\x7d\x7d\x7d,~/\x7bids\x7d~:\x7b~get~:\x7b~tags~:[~Line~],~summary~:~Gets lines that match the specified line ids.~,~description~:~Gets lines that match the specified line ids.~,~operationId~:~Line_GetByPathIds~,~parameters~:[\x7b~name~:~ids~,~in~:~path~,~description~:~A comma-separated list of line ids e.g. victoria,circle,N133. Max. approx. 20 ids.~,~required~:true,~schema~:\x7b~type~:~string~\x7d,~example~:~victoria~\x7d],~responses~:\x7b~200~:\x7b~description~:~OK~,~content~:\x7b~application/json~:\x7b~schema~:\x7b~$ref~:~#/components/schemas/ids-Get200ApplicationJsonResponse~\x7d\x7d,~text/json~:\x7b~schema~:\x7b~$ref~:~#/components/schemas/ids-Get200TextJsonResponse~\x7d\x7d,~application/xml~:\x7b~schema~:\x7b~$ref~:~#/components/schemas/ids-Get200ApplicationXmlResponse~\x7d\x7d,~text/xml~:\x7b~schema~:\x7b~$ref~:~#/components/schemas/ids-Get200TextXmlResponse~\x7d\x7d\x7d\x7d\x7d\x7d\x7d,~/Mode/\x7bmodes\x7d~:\x7b~get~:\x7b~tags~:[~Line~],~summary~:~Gets lines that serve the given modes.~,~description~:~Gets lines that serve the given modes.~,~operationId~:~Line_GetByModeByPathModes~,~parameters~:[\x7b~name~:~modes~,~in~:~path~,~description~:~A comma-separated list of modes e.g. tube,dlr~,~required~:true,~schema~:\x7b~type~:~string~\x7d,~example~:~tube~\x7d],~responses~:\x7b~200~:\x7b~description~:~OK~,~content~:\x7b~application/json~:\x7b~schema~:\x7b~$ref~:~#/components/schemas/Mode-modes-Get200ApplicationJsonResponse~\x7d\x7d,~text/json~:\x7b~schema~:\x7b~$ref~:~#/components/schemas/Mode-modes-Get200TextJsonResponse~\x7d\x7d,~application/xml~:\x7b~schema~:\x7b~$ref~:~#/components/schemas/Mode-modes-Get200ApplicationXmlResponse~\x7d\x7d,~text/xml~:\x7b~schema~:\x7b~$ref~:~#/components/schemas/Mode-modes-Get200TextXmlResponse~\x7d\x7d\x7d\x7d\x7d\x7d\x7d,~/Route~:\x7b~get~:\x7b~tags~:[~Line~],~summary~:~Get all valid routes for all lines, including the name and id of the originating and terminating stops for each route.~,~description~:~Get all valid routes for all lines, including the name and id of the originating and terminating stops for each route.~,~operationId~:~Line_RouteByQueryServiceTypes~,~parameters~:[\x7b~name~:~serviceTypes~,~in~:~query~,~description~:~A comma seperated list of service types to filter on. Supported values: Regular, Night. Defaulted to 'Regular' if not specified~,~schema~:\x7b~enum~:[~Regular~,~Night~],~type~:~string~\x7d\x7d],~responses~:\x7b~200~:\x7b~description~:~OK~,~content~:\x7b~application/json~:\x7b~schema~:\x7b~$ref~:~#/components/schemas/RouteGet200ApplicationJsonResponse~\x7d\x7d,~text/json~:\x7b~schema~:\x7b~$ref~:~#/components/schemas/RouteGet200TextJsonResponse~\x7d\x7d,~application/xml~:\x7b~schema~:\x7b~$ref~:~#/components/schemas/RouteGet200ApplicationXmlResponse~\x7d\x7d,~text/xml~:\x7b~schema~:\x7b~$ref~:~#/components/schemas/RouteGet200TextXmlResponse~\x7d\x7d\x7d\x7d\x7d\x7d\x7d,~/\x7bids\x7d/Route~:\x7b~get~:\x7b~tags~:[~Line~],~summary~:~Get all valid routes for given line ids, including the name and id of the originating and terminating stops for each route.~,~description~:~Get all valid routes for given line ids, including the name and id of the originating and terminating stops for each route.~,~operationId~:~Line_LineRoutesByIdsByPathIdsQueryServiceTypes~,~parameters~:[\x7b~name~:~ids~,~in~:~path~,~description~:~A comma-separated list of line ids e.g. victoria,circle,N133. Max. approx. 20 ids.~,~required~:true,~schema~:\x7b~type~:~string~\x7d,~example~:~victoria~\x7d,\x7b~name~:~serviceTypes~,~in~:~query~,~description~:~A comma seperated list of service types to filter on. Supported values: Regular, Night. Defaulted to 'Regular' if not specified~,~schema~:\x7b~enum~:[~Regular~,~Night~],~type~:~string~\x7d\x7d],~responses~:\x7b~200~:\x7b~description~:~OK~,~content~:\x7b~application/json~:\x7b~schema~:\x7b~$ref~:~#/components/schemas/ids-RouteGet200ApplicationJsonResponse~\x7d\x7d,~text/json~:\x7b~schema~:\x7b~$ref~:~#/components/schemas/ids-RouteGet200TextJsonResponse~\x7d\x7d,~application/xml~:\x7b~schema~:\x7b~$ref~:~#/components/schemas/ids-RouteGet200ApplicationXmlResponse~\x7d\x7d,~text/xml~:\x7b~schema~:\x7b~$ref~:~#/components/schemas/ids-RouteGet200TextXmlResponse~\x7d\x7d\x7d\x7d\x7d\x7d\x7d,~/Mode/\x7bmodes\x7d/Route~:\x7b~get~:\x7b~tags~:[~Line~],~summary~:~Gets all lines and their valid routes for given modes, including the name and id of the originating and terminating stops for each route~,~description~:~Gets all lines and their valid routes for given modes, including the name and id of the originating and terminating stops for each route~,~operationId~:~Line_RouteByModeByPathModesQueryServiceTypes~,~parameters~:[\x7b~name~:~modes~,~in~:~path~,~description~:~A comma-separated list of modes e.g. tube,dlr~,~required~:true,~schema~:\x7b~type~:~string~\x7d,~example~:~tube~\x7d,\x7b~name~:~serviceTypes~,~in~:~query~,~description~:~A comma seperated list of service types to filter on. Supported values: Regular, Night. Defaulted to 'Regular' if not specified~,~schema~:\x7b~enum~:[~Regular~,~Night~],~type~:~string~\x7d\x7d],~responses~:\x7b~200~:\x7b~description~:~OK~,~content~:\x7b~application/json~:\x7b~schema~:\x7b~$ref~:~#/components/schemas/Mode-modes-RouteGet200ApplicationJsonResponse~\x7d\x7d,~text/json~:\x7b~schema~:\x7b~$ref~:~#/components/schemas/Mode-modes-RouteGet200TextJsonResponse~\x7d\x7d,~application/xml~:\x7b~schema~:\x7b~$ref~:~#/components/schemas/Mode-modes-RouteGet200ApplicationXmlResponse~\x7d\x7d,~text/xml~:\x7b~schema~:\x7b~$ref~:~#/components/schemas/Mode-modes-RouteGet200TextXmlResponse~\x7d\x7d\x7d\x7d\x7d\x7d\x7d,~/\x7bid\x7d/Route/Sequence/\x7bdirection\x7d~:\x7b~get~:\x7b~tags~:[~Line~],~summary~:~Gets all valid routes for given line id, including the sequence of stops on each route.~,~description~:~Gets all valid routes for given line id, including the sequence of stops on each route.~,~operationId~:~Line_RouteSequenceByPathIdPathDirectionQueryServiceTypesQueryExcludeCrowding~,~parameters~:[\x7b~name~:~id~,~in~:~path~,~description~:~A single line id e.g. victoria~,~required~:true,~schema~:\x7b~type~:~string~\x7d,~example~:~victoria~\x7d,\x7b~name~:~direction~,~in~:~path~,~description~:~The direction of travel. Can be inbound or outbound.~,~required~:true,~schema~:\x7b~enum~:[~inbound~,~outbound~,~all~],~type~:~string~\x7d,~example~:~inbound~\x7d,\x7b~name~:~serviceTypes~,~in~:~query~,~description~:~A comma seperated list of service types to filter on. Supported values: Regular, Night. Defaulted to 'Regular' if not specified~,~schema~:\x7b~enum~:[~Regular~,~Night~],~type~:~string~\x7d\x7d,\x7b~name~:~excludeCrowding~,~in~:~query~,~description~:~That excludes crowding from line disruptions. Can be true or false.~,~schema~:\x7b~type~:~boolean~\x7d\x7d],~responses~:\x7b~200~:\x7b~description~:~OK~,~content~:\x7b~application/json~:\x7b~schema~:\x7b~$ref~:~#/components/schemas/Tfl-23~\x7d,~example~:\x7b~lineId~:~string~,~lineName~:~string~,~direction~:~string~,~isOutboundOnly~:true,~mode~:~string~,~lineStrings~:[~string~],~stations~:[\x7b~routeId~:0,~parentId~:~string~,~stationId~:~string~,~icsId~:~string~,~topMostParentId~:~string~,~direction~:~string~,~towards~:~string~,~modes~:[~string~],~stopType~:~string~,~stopLetter~:~string~,~zone~:~string~,~accessibilitySummary~:~string~,~hasDisruption~:true,~lines~:[\x7b~id~:~string~,~name~:~string~,~uri~:~string~,~fullName~:~string~,~type~:~string~,~crowding~:\x7b~passengerFlows~:[\x7b~timeSlice~:~string~,~value~:0\x7d],~trainLoadings~:[\x7b~line~:~string~,~lineDirection~:~string~,~platformDirection~:~string~,~direction~:~string~,~naptanTo~:~string~,~timeSlice~:~string~,~value~:0\x7d]\x7d,~routeType~:~Unknown~,~status~:~Unknown~\x7d],~status~:true,~id~:~string~,~url~:~string~,~name~:~string~,~lat~:0,~lon~:0\x7d],~stopPointSequences~:[\x7b~lineId~:~string~,~lineName~:~string~,~direction~:~string~,~branchId~:0,~nextBranchIds~:[0],~prevBranchIds~:[0],~stopPoint~:[\x7b~routeId~:0,~parentId~:~string~,~stationId~:~string~,~icsId~:~string~,~topMostParentId~:~string~,~direction~:~string~,~towards~:~string~,~modes~:[~string~],~stopType~:~string~,~stopLetter~:~string~,~zone~:~string~,~accessibilitySummary~:~string~,~hasDisruption~:true,~lines~:[\x7b~id~:~string~,~name~:~string~,~uri~:~string~,~fullName~:~string~,~type~:~string~,~crowding~:\x7b~passengerFlows~:[\x7b~timeSlice~:~string~,~value~:0\x7d],~trainLoadings~:[\x7b~line~:~string~,~lineDirection~:~string~,~platformDirection~:~string~,~direction~:~string~,~naptanTo~:~string~,~timeSlice~:~string~,~value~:0\x7d]\x7d,~routeType~:~Unknown~,~status~:~Unknown~\x7d],~status~:true,~id~:~string~,~url~:~string~,~name~:~string~,~lat~:0,~lon~:0\x7d],~serviceType~:~Regular~\x7d],~orderedLineRoutes~:[\x7b~name~:~string~,~naptanIds~:[~string~],~serviceType~:~string~\x7d]\x7d\x7d,~text/json~:\x7b~schema~:\x7b~$ref~:~#/components/schemas/Tfl-23~\x7d,~example~:\x7b~lineId~:~string~,~lineName~:~string~,~direction~:~string~,~isOutboundOnly~:true,~mode~:~string~,~lineStrings~:[~string~],~stations~:[\x7b~routeId~:0,~parentId~:~string~,~stationId~:~string~,~icsId~:~string~,~topMostParentId~:~string~,~direction~:~string~,~towards~:~string~,~modes~:[~string~],~stopType~:~string~,~stopLetter~:~string~,~zone~:~string~,~accessibilitySummary~:~string~,~hasDisruption~:true,~lines~:[\x7b~id~:~string~,~name~:~string~,~uri~:~string~,~fullName~:~string~,~type~:~string~,~crowding~:\x7b~passengerFlows~:[\x7b~timeSlice~:~string~,~value~:0\x7d],~trainLoadings~:[\x7b~line~:~string~,~lineDirection~:~string~,~platformDirection~:~string~,~direction~:~string~,~naptanTo~:~string~,~timeSlice~:~string~,~value~:0\x7d]\x7d,~routeType~:~Unknown~,~status~:~Unknown~\x7d],~status~:true,~id~:~string~,~url~:~string~,~name~:~string~,~lat~:0,~lon~:0\x7d],~stopPointSequences~:[\x7b~lineId~:~string~,~lineName~:~string~,~direction~:~string~,~branchId~:0,~nextBranchIds~:[0],~prevBranchIds~:[0],~stopPoint~:[\x7b~routeId~:0,~parentId~:~string~,~stationId~:~string~,~icsId~:~string~,~topMostParentId~:~string~,~direction~:~string~,~towards~:~string~,~modes~:[~string~],~stopType~:~string~,~stopLetter~:~string~,~zone~:~string~,~accessibilitySummary~:~string~,~hasDisruption~:true,~lines~:[\x7b~id~:~string~,~name~:~string~,~uri~:~string~,~fullName~:~string~,~type~:~string~,~crowding~:\x7b~passengerFlows~:[\x7b~timeSlice~:~string~,~value~:0\x7d],~trainLoadings~:[\x7b~line~:~string~,~lineDirection~:~string~,~platformDirection~:~string~,~direction~:~string~,~naptanTo~:~string~,~timeSlice~:~string~,~value~:0\x7d]\x7d,~routeType~:~Unknown~,~status~:~Unknown~\x7d],~status~:true,~id~:~string~,~url~:~string~,~name~:~string~,~lat~:0,~lon~:0\x7d],~serviceType~:~Regular~\x7d],~orderedLineRoutes~:[\x7b~name~:~string~,~naptanIds~:[~string~],~serviceType~:~string~\x7d]\x7d\x7d,~application/xml~:\x7b~schema~:\x7b~$ref~:~#/components/schemas/Tfl-23~\x7d,~example~:~<Tfl-23> <lineId>string</lineId> <lineName>string</lineName> <direction>string</direction> <isOutboundOnly>true</isOutboundOnly> <mode>string</mode> <lineStrings>string</lineStrings> <stations> <routeId>0</routeId> <parentId>string</parentId> <stationId>string</stationId> <icsId>string</icsId> <topMostParentId>string</topMostParentId> <direction>string</direction> <towards>string</towards> <modes>string</modes> <stopType>string</stopType> <stopLetter>string</stopLetter> <zone>string</zone> <accessibilitySummary>string</accessibilitySummary> <hasDisruption>true</hasDisruption> <lines> <id>string</id> <name>string</name> <uri>string</uri> <fullName>string</fullName> <type>string</type> <crowding> <passengerFlows> <timeSlice>string</timeSlice> <value>0</value> </passengerFlows> <trainLoadings> <line>string</line> <lineDirection>string</lineDirection> <platformDirection>string</platformDirection> <direction>string</direction> <naptanTo>string</naptanTo> <timeSlice>string</timeSlice> <value>0</value> </trainLoadings> </crowding> <routeType>Unknown</routeType> <status>Unknown</status> </lines> <status>true</status> <id>string</id> <url>string</url> <name>string</name> <lat>0</lat> <lon>0</lon> </stations> <stopPointSequences> <lineId>string</lineId> <lineName>string</lineName> <direction>string</direction> <branchId>0</branchId> <nextBranchIds>0</nextBranchIds> <prevBranchIds>0</prevBranchIds> <stopPoint> <routeId>0</routeId> <parentId>string</parentId> <stationId>string</stationId> <icsId>string</icsId> <topMostParentId>string</topMostParentId> <direction>string</direction> <towards>string</towards> <modes>string</modes> <stopType>string</stopType> <stopLetter>string</stopLetter> <zone>string</zone> <accessibilitySummary>string</accessibilitySummary> <hasDisruption>true</hasDisruption> <lines> <id>string</id> <name>string</name> <uri>string</uri> <fullName>string</fullName> <type>string</type> <crowding> <passengerFlows> <timeSlice>string</timeSlice> <value>0</value> </passengerFlows> <trainLoadings> <line>string</line> <lineDirection>string</lineDirection> <platformDirection>string</platformDirection> <direction>string</direction> <naptanTo>string</naptanTo> <timeSlice>string</timeSlice> <value>0</value> </trainLoadings> </crowding> <routeType>Unknown</routeType> <status>Unknown</status> </lines> <status>true</status> <id>string</id> <url>string</url> <name>string</name> <lat>0</lat> <lon>0</lon> </stopPoint> <serviceType>Regular</serviceType> </stopPointSequences> <orderedLineRoutes> <name>string</name> <naptanIds>string</naptanIds> <serviceType>string</serviceType> </orderedLineRoutes> </Tfl-23>~\x7d,~text/xml~:\x7b~schema~:\x7b~$ref~:~#/components/schemas/Tfl-23~\x7d,~example~:~<Tfl-23> <lineId>string</lineId> <lineName>string</lineName> <direction>string</direction> <isOutboundOnly>true</isOutboundOnly> <mode>string</mode> <lineStrings>string</lineStrings> <stations> <routeId>0</routeId> <parentId>string</parentId> <stationId>string</stationId> <icsId>string</icsId> <topMostParentId>string</topMostParentId> <direction>string</direction> <towards>string</towards> <modes>string</modes> <stopType>string</stopType> <stopLetter>string</stopLetter> <zone>string</zone> <accessibilitySummary>string</accessibilitySummary> <hasDisruption>true</hasDisruption> <lines> <id>string</id> <name>string</name> <uri>string</uri> <fullName>string</fullName> <type>string</type> <crowding> <passengerFlows> <timeSlice>string</timeSlice> <value>0</value> </passengerFlows> <trainLoadings> <line>string</line> <lineDirection>string</lineDirection> <platformDirection>string</platformDirection> <direction>string</direction> <naptanTo>string</naptanTo> <timeSlice>string</timeSlice> <value>0</value> </trainLoadings> </crowding> <routeType>Unknown</routeType> <status>Unknown</status> </lines> <status>true</status> <id>string</id> <url>string</url> <name>string</name> <lat>0</lat> <lon>0</lon> </stations> <stopPointSequences> <lineId>string</lineId> <lineName>string</lineName> <direction>string</direction> <branchId>0</branchId> <nextBranchIds>0</nextBranchIds> <prevBranchIds>0</prevBranchIds> <stopPoint> <routeId>0</routeId> <parentId>string</parentId> <stationId>string</stationId> <icsId>string</icsId> <topMostParentId>string</topMostParentId> <direction>string</direction> <towards>string</towards> <modes>string</modes> <stopType>string</stopType> <stopLetter>string</stopLetter> <zone>string</zone> <accessibilitySummary>string</accessibilitySummary> <hasDisruption>true</hasDisruption> <lines> <id>string</id> <name>string</name> <uri>string</uri> <fullName>string</fullName> <type>string</type> <crowding> <passengerFlows> <timeSlice>string</timeSlice> <value>0</value> </passengerFlows> <trainLoadings> <line>string</line> <lineDirection>string</lineDirection> <platformDirection>string</platformDirection> <direction>string</direction> <naptanTo>string</naptanTo> <timeSlice>string</timeSlice> <value>0</value> </trainLoadings> </crowding> <routeType>Unknown</routeType> <status>Unknown</status> </lines> <status>true</status> <id>string</id> <url>string</url> <name>string</name> <lat>0</lat> <lon>0</lon> </stopPoint> <serviceType>Regular</serviceType> </stopPointSequences> <orderedLineRoutes> <name>string</name> <naptanIds>string</naptanIds> <serviceType>string</serviceType> </orderedLineRoutes> </Tfl-23>~\x7d\x7d\x7d\x7d\x7d\x7d,~/\x7bids\x7d/Status/\x7bstartDate\x7d/to/\x7bendDate\x7d~:\x7b~get~:\x7b~tags~:[~Line~],~summary~:~Gets the line status for given line ids during the provided dates e.g Minor Delays~,~description~:~Gets the line status for given line ids during the provided dates e.g Minor Delays~,~operationId~:~Line_StatusByPathIdsPathStartDatePathEndDateQueryDetail~,~parameters~:[\x7b~name~:~ids~,~in~:~path~,~description~:~A comma-separated list of line ids e.g. victoria,circle,N133. Max. approx. 20 ids.~,~required~:true,~schema~:\x7b~type~:~string~\x7d,~example~:~victoria~\x7d,\x7b~name~:~startDate~,~in~:~path~,~description~:~Format - date-time (as date-time in RFC3339). Start date for start of the period~,~required~:true,~schema~:\x7b~type~:~string~\x7d,~example~:~2024-03-01~\x7d,\x7b~name~:~endDate~,~in~:~path~,~description~:~Format - date-time (as date-time in RFC3339). End date for the period that the disruption will fall within to be included in the results~,~required~:true,~schema~:\x7b~type~:~string~\x7d,~example~:~2024-03-31~\x7d,\x7b~name~:~detail~,~in~:~query~,~description~:~Include details of the disruptions that are causing the line status including the affected stops and routes~,~schema~:\x7b~type~:~boolean~\x7d\x7d],~responses~:\x7b~200~:\x7b~description~:~OK~,~content~:\x7b~application/json~:\x7b~schema~:\x7b~$ref~:~#/components/schemas/ids-Status-startDate-To-endDate-Get200ApplicationJsonResponse~\x7d\x7d,~text/json~:\x7b~schema~:\x7b~$ref~:~#/components/schemas/ids-Status-startDate-To-endDate-Get200TextJsonResponse~\x7d\x7d,~application/xml~:\x7b~schema~:\x7b~$ref~:~#/components/schemas/ids-Status-startDate-To-endDate-Get200ApplicationXmlResponse~\x7d\x7d,~text/xml~:\x7b~schema~:\x7b~$ref~:~#/components/schemas/ids-Status-startDate-To-endDate-Get200TextXmlResponse~\x7d\x7d\x7d\x7d\x7d\x7d\x7d,~/\x7bids\x7d/Status~:\x7b~get~:\x7b~tags~:[~Line~],~summary~:~Gets the line status of for given line ids e.g Minor Delays~,~description~:~Gets the line status of for given line ids e.g Minor Delays~,~operationId~:~Line_StatusByIdsByPathIdsQueryDetail~,~parameters~:[\x7b~name~:~ids~,~in~:~path~,~description~:~A comma-separated list of line ids e.g. victoria,circle,N133. Max. approx. 20 ids.~,~required~:true,~schema~:\x7b~type~:~string~\x7d,~example~:~victoria~\x7d,\x7b~name~:~detail~,~in~:~query~,~description~:~Include details of the disruptions that are causing the line status including the affected stops and routes~,~schema~:\x7b~type~:~boolean~\x7d\x7d],~responses~:\x7b~200~:\x7b~description~:~OK~,~content~:\x7b~application/json~:\x7b~schema~:\x7b~$ref~:~#/components/schemas/ids-StatusGet200ApplicationJsonResponse~\x7d\x7d,~text/json~:\x7b~schema~:\x7b~$ref~:~#/components/schemas/ids-StatusGet200TextJsonResponse~\x7d\x7d,~application/xml~:\x7b~schema~:\x7b~$ref~:~#/components/schemas/ids-StatusGet200ApplicationXmlResponse~\x7d\x7d,~text/xml~:\x7b~schema~:\x7b~$ref~:~#/components/schemas/ids-StatusGet200TextXmlResponse~\x7d\x7d\x7d\x7d\x7d\x7d\x7d,~/Search/\x7bquery\x7d~:\x7b~get~:\x7b~tags~:[~Line~],~summary~:~Search for lines or routes matching the query string~,~description~:~Search for lines or routes matching the query string~,~operationId~:~Line_SearchByPathQueryQueryModesQueryServiceTypes~,~parameters~:[\x7b~name~:~query~,~in~:~path~,~description~:~Search term e.g victoria~,~required~:true,~schema~:\x7b~type~:~string~\x7d,~example~:~victoria~\x7d,\x7b~name~:~modes~,~in~:~query~,~description~:~Optionally filter by the specified modes~,~schema~:\x7b~type~:~array~\x7d\x7d,\x7b~name~:~serviceTypes~,~in~:~query~,~description~:~A comma seperated list of service types to filter on. Supported values: Regular, Night. Defaulted to 'Regular' if not specified~,~schema~:\x7b~enum~:[~Regular~,~Night~],~type~:~string~\x7d\x7d],~responses~:\x7b~200~:\x7b~description~:~OK~,~content~:\x7b~application/json~:\x7b~schema~:\x7b~$ref~:~#/components/schemas/Tfl-27~\x7d,~example~:\x7b~input~:~string~,~searchMatches~:[\x7b~lineId~:~string~,~mode~:~string~,~lineName~:~string~,~lineRouteSection~:[\x7b~routeId~:0,~direction~:~string~,~destination~:~string~,~fromStation~:~string~,~toStation~:~string~,~serviceType~:~string~,~vehicleDestinationText~:~string~\x7d],~matchedRouteSections~:[\x7b~id~:0\x7d],~matchedStops~:[\x7b~routeId~:0,~parentId~:~string~,~stationId~:~string~,~icsId~:~string~,~topMostParentId~:~string~,~direction~:~string~,~towards~:~string~,~modes~:[~string~],~stopType~:~string~,~stopLetter~:~string~,~zone~:~string~,~accessibilitySummary~:~string~,~hasDisruption~:true,~lines~:[\x7b~id~:~string~,~name~:~string~,~uri~:~string~,~fullName~:~string~,~type~:~string~,~crowding~:\x7b~passengerFlows~:[\x7b~timeSlice~:~string~,~value~:0\x7d],~trainLoadings~:[\x7b~line~:~string~,~lineDirection~:~string~,~platformDirection~:~string~,~direction~:~string~,~naptanTo~:~string~,~timeSlice~:~string~,~value~:0\x7d]\x7d,~routeType~:~Unknown~,~status~:~Unknown~\x7d],~status~:true,~id~:~string~,~url~:~string~,~name~:~string~,~lat~:0,~lon~:0\x7d],~id~:~string~,~url~:~string~,~name~:~string~,~lat~:0,~lon~:0\x7d]\x7d\x7d,~text/json~:\x7b~schema~:\x7b~$ref~:~#/components/schemas/Tfl-27~\x7d,~example~:\x7b~input~:~string~,~searchMatches~:[\x7b~lineId~:~string~,~mode~:~string~,~lineName~:~string~,~lineRouteSection~:[\x7b~routeId~:0,~direction~:~string~,~destination~:~string~,~fromStation~:~string~,~toStation~:~string~,~serviceType~:~string~,~vehicleDestinationText~:~string~\x7d],~matchedRouteSections~:[\x7b~id~:0\x7d],~matchedStops~:[\x7b~routeId~:0,~parentId~:~string~,~stationId~:~string~,~icsId~:~string~,~topMostParentId~:~string~,~direction~:~string~,~towards~:~string~,~modes~:[~string~],~stopType~:~string~,~stopLetter~:~string~,~zone~:~string~,~accessibilitySummary~:~string~,~hasDisruption~:true,~lines~:[\x7b~id~:~string~,~name~:~string~,~uri~:~string~,~fullName~:~string~,~type~:~string~,~crowding~:\x7b~passengerFlows~:[\x7b~timeSlice~:~string~,~value~:0\x7d],~trainLoadings~:[\x7b~line~:~string~,~lineDirection~:~string~,~platformDirection~:~string~,~direction~:~string~,~naptanTo~:~string~,~timeSlice~:~string~,~value~:0\x7d]\x7d,~routeType~:~Unknown~,~status~:~Unknown~\x7d],~status~:true,~id~:~string~,~url~:~string~,~name~:~string~,~lat~:0,~lon~:0\x7d],~id~:~string~,~url~:~string~,~name~:~string~,~lat~:0,~lon~:0\x7d]\x7d\x7d,~application/xml~:\x7b~schema~:\x7b~$ref~:~#/components/schemas/Tfl-27~\x7d,~example~:~<Tfl-27> <input>string</input> <searchMatches> <lineId>string</lineId> <mode>string</mode> <lineName>string</lineName> <lineRouteSection> <routeId>0</routeId> <direction>string</direction> <destination>string</destination> <fromStation>string</fromStation> <toStation>string</toStation> <serviceType>string</serviceType> <vehicleDestinationText>string</vehicleDestinationText> </lineRouteSection> <matchedRouteSections> <id>0</id> </matchedRouteSections> <matchedStops> <routeId>0</routeId> <parentId>string</parentId> <stationId>string</stationId> <icsId>string</icsId> <topMostParentId>string</topMostParentId> <direction>string</direction> <towards>string</towards> <modes>string</modes> <stopType>string</stopType> <stopLetter>string</stopLetter> <zone>string</zone> <accessibilitySummary>string</accessibilitySummary> <hasDisruption>true</hasDisruption> <lines> <id>string</id> <name>string</name> <uri>string</uri> <fullName>string</fullName> <type>string</type> <crowding> <passengerFlows> <timeSlice>string</timeSlice> <value>0</value> </passengerFlows> <trainLoadings> <line>string</line> <lineDirection>string</lineDirection> <platformDirection>string</platformDirection> <direction>string</direction> <naptanTo>string</naptanTo> <timeSlice>string</timeSlice> <value>0</value> </trainLoadings> </crowding> <routeType>Unknown</routeType> <status>Unknown</status> </lines> <status>true</status> <id>string</id> <url>string</url> <name>string</name> <lat>0</lat> <lon>0</lon> </matchedStops> <id>string</id> <url>string</url> <name>string</name> <lat>0</lat> <lon>0</lon> </searchMatches> </Tfl-27>~\x7d,~text/xml~:\x7b~schema~:\x7b~$ref~:~#/components/schemas/Tfl-27~\x7d,~example~:~<Tfl-27> <input>string</input> <searchMatches> <lineId>string</lineId> <mode>string</mode> <lineName>string</lineName> <lineRouteSection> <routeId>0</routeId> <direction>string</direction> <destination>string</destination> <fromStation>string</fromStation> <toStation>string</toStation> <serviceType>string</serviceType> <vehicleDestinationText>string</vehicleDestinationText> </lineRouteSection> <matchedRouteSections> <id>0</id> </matchedRouteSections> <matchedStops> <routeId>0</routeId> <parentId>string</parentId> <stationId>string</stationId> <icsId>string</icsId> <topMostParentId>string</topMostParentId> <direction>string</direction> <towards>string</towards> <modes>string</modes> <stopType>string</stopType> <stopLetter>string</stopLetter> <zone>string</zone> <accessibilitySummary>string</accessibilitySummary> <hasDisruption>true</hasDisruption> <lines> <id>string</id> <name>string</name> <uri>string</uri> <fullName>string</fullName> <type>string</type> <crowding> <passengerFlows> <timeSlice>string</timeSlice> <value>0</value> </passengerFlows> <trainLoadings> <line>string</line> <lineDirection>string</lineDirection> <platformDirection>string</platformDirection> <direction>string</direction> <naptanTo>string</naptanTo> <timeSlice>string</timeSlice> <value>0</value> </trainLoadings> </crowding> <routeType>Unknown</routeType> <status>Unknown</status> </lines> <status>true</status> <id>string</id> <url>string</url> <name>string</name> <lat>0</lat> <lon>0</lon> </matchedStops> <id>string</id> <url>string</url> <name>string</name> <lat>0</lat> <lon>0</lon> </searchMatches> </Tfl-27>~\x7d\x7d\x7d\x7d\x7d\x7d,~/Status/\x7bseverity\x7d~:\x7b~get~:\x7b~tags~:[~Line~],~summary~:~Gets the line status for all lines with a given severity A list of valid severity codes can be obtained from a call to Line/Meta/Severity~,~description~:~Gets the line status for all lines with a given severity A list of valid severity codes can be obtained from a call to Line/Meta/Severity~,~operationId~:~Line_StatusBySeverityByPathSeverity~,~parameters~:[\x7b~name~:~severity~,~in~:~path~,~description~:~Format - int32. The level of severity (eg: a number from 0 to 14)~,~required~:true,~schema~:\x7b~type~:~integer~\x7d,~example~:2\x7d],~responses~:\x7b~200~:\x7b~description~:~OK~,~content~:\x7b~application/json~:\x7b~schema~:\x7b~$ref~:~#/components/schemas/Status-severity-Get200ApplicationJsonResponse~\x7d\x7d,~text/json~:\x7b~schema~:\x7b~$ref~:~#/components/schemas/Status-severity-Get200TextJsonResponse~\x7d\x7d,~application/xml~:\x7b~schema~:\x7b~$ref~:~#/components/schemas/Status-severity-Get200ApplicationXmlResponse~\x7d\x7d,~text/xml~:\x7b~schema~:\x7b~$ref~:~#/components/schemas/Status-severity-Get200TextXmlResponse~\x7d\x7d\x7d\x7d\x7d\x7d\x7d,~/Mode/\x7bmodes\x7d/Status~:\x7b~get~:\x7b~tags~:[~Line~],~summary~:~Gets the line status of for all lines for the given modes~,~description~:~Gets the line status of for all lines for the given modes~,~operationId~:~Line_StatusByModeByPathModesQueryDetailQuerySeverityLevel~,~parameters~:[\x7b~name~:~modes~,~in~:~path~,~description~:~A comma-separated list of modes to filter by. e.g. tube,dlr~,~required~:true,~schema~:\x7b~type~:~string~\x7d,~example~:~tube~\x7d,\x7b~name~:~detail~,~in~:~query~,~description~:~Include details of the disruptions that are causing the line status including the affected stops and routes~,~schema~:\x7b~type~:~boolean~\x7d\x7d,\x7b~name~:~severityLevel~,~in~:~query~,~description~:~If specified, ensures that only those line status(es) are returned within the lines that have disruptions with the matching severity level.~,~schema~:\x7b~type~:~string~\x7d\x7d],~responses~:\x7b~200~:\x7b~description~:~OK~,~content~:\x7b~application/json~:\x7b~schema~:\x7b~$ref~:~#/components/schemas/Mode-modes-StatusGet200ApplicationJsonResponse~\x7d\x7d,~text/json~:\x7b~schema~:\x7b~$ref~:~#/components/schemas/Mode-modes-StatusGet200TextJsonResponse~\x7d\x7d,~application/xml~:\x7b~schema~:\x7b~$ref~:~#/components/schemas/Mode-modes-StatusGet200ApplicationXmlResponse~\x7d\x7d,~text/xml~:\x7b~schema~:\x7b~$ref~:~#/components/schemas/Mode-modes-StatusGet200TextXmlResponse~\x7d\x7d\x7d\x7d\x7d\x7d\x7d,~/\x7bid\x7d/StopPoints~:\x7b~get~:\x7b~tags~:[~Line~],~summary~:~Gets a list of the stations that serve the given line id~,~description~:~Gets a list of the stations that serve the given line id~,~operationId~:~Line_StopPointsByPathIdQueryTflOperatedNationalRailStationsOnly~,~parameters~:[\x7b~name~:~id~,~in~:~path~,~description~:~A single line id e.g. victoria~,~required~:true,~schema~:\x7b~type~:~string~\x7d,~example~:~victoria~\x7d,\x7b~name~:~tflOperatedNationalRailStationsOnly~,~in~:~query~,~description~:~If the national-rail line is requested, this flag will filter the national rail stations so that only those operated by TfL are returned~,~schema~:\x7b~type~:~boolean~\x7d\x7d],~responses~:\x7b~200~:\x7b~description~:~OK~,~content~:\x7b~application/json~:\x7b~schema~:\x7b~$ref~:~#/components/schemas/id-StopPointsGet200ApplicationJsonResponse~\x7d\x7d,~text/json~:\x7b~schema~:\x7b~$ref~:~#/components/schemas/id-StopPointsGet200TextJsonResponse~\x7d\x7d,~application/xml~:\x7b~schema~:\x7b~$ref~:~#/components/schemas/id-StopPointsGet200ApplicationXmlResponse~\x7d\x7d,~text/xml~:\x7b~schema~:\x7b~$ref~:~#/components/schemas/id-StopPointsGet200TextXmlResponse~\x7d\x7d\x7d\x7d\x7d\x7d\x7d,~/\x7bid\x7d/Timetable/\x7bfromStopPointId\x7d~:\x7b~get~:\x7b~tags~:[~Line~],~summary~:~Gets the timetable for a specified station on the give line~,~description~:~Gets the timetable for a specified station on the give line~,~operationId~:~Line_TimetableByPathFromStopPointIdPathId~,~parameters~:[\x7b~name~:~fromStopPointId~,~in~:~path~,~description~:~The originating station's stop point id (station naptan code e.g. 940GZZLUASL, you can use /StopPoint/Search/\x7bquery\x7d endpoint to find a stop point id from a station name)~,~required~:true,~schema~:\x7b~type~:~string~\x7d,~example~:~940GZZLUVIC~\x7d,\x7b~name~:~id~,~in~:~path~,~description~:~A single line id e.g. victoria~,~required~:true,~schema~:\x7b~type~:~string~\x7d,~example~:~victoria~\x7d],~responses~:\x7b~200~:\x7b~description~:~OK~,~content~:\x7b~application/json~:\x7b~schema~:\x7b~$ref~:~#/components/schemas/Tfl-39~\x7d,~example~:\x7b~lineId~:~string~,~lineName~:~string~,~direction~:~string~,~pdfUrl~:~string~,~stations~:[\x7b~routeId~:0,~parentId~:~string~,~stationId~:~string~,~icsId~:~string~,~topMostParentId~:~string~,~direction~:~string~,~towards~:~string~,~modes~:[~string~],~stopType~:~string~,~stopLetter~:~string~,~zone~:~string~,~accessibilitySummary~:~string~,~hasDisruption~:true,~lines~:[\x7b~id~:~string~,~name~:~string~,~uri~:~string~,~fullName~:~string~,~type~:~string~,~crowding~:\x7b~passengerFlows~:[\x7b~timeSlice~:~string~,~value~:0\x7d],~trainLoadings~:[\x7b~line~:~string~,~lineDirection~:~string~,~platformDirection~:~string~,~direction~:~string~,~naptanTo~:~string~,~timeSlice~:~string~,~value~:0\x7d]\x7d,~routeType~:~Unknown~,~status~:~Unknown~\x7d],~status~:true,~id~:~string~,~url~:~string~,~name~:~string~,~lat~:0,~lon~:0\x7d],~stops~:[\x7b~routeId~:0,~parentId~:~string~,~stationId~:~string~,~icsId~:~string~,~topMostParentId~:~string~,~direction~:~string~,~towards~:~string~,~modes~:[~string~],~stopType~:~string~,~stopLetter~:~string~,~zone~:~string~,~accessibilitySummary~:~string~,~hasDisruption~:true,~lines~:[\x7b~id~:~string~,~name~:~string~,~uri~:~string~,~fullName~:~string~,~type~:~string~,~crowding~:\x7b~passengerFlows~:[\x7b~timeSlice~:~string~,~value~:0\x7d],~trainLoadings~:[\x7b~line~:~string~,~lineDirection~:~string~,~platformDirection~:~string~,~direction~:~string~,~naptanTo~:~string~,~timeSlice~:~string~,~value~:0\x7d]\x7d,~routeType~:~Unknown~,~status~:~Unknown~\x7d],~status~:true,~id~:~string~,~url~:~string~,~name~:~string~,~lat~:0,~lon~:0\x7d],~timetable~:\x7b~departureStopId~:~string~,~routes~:[\x7b~stationIntervals~:[\x7b~id~:~string~,~intervals~:[\x7b~stopId~:~string~,~timeToArrival~:0\x7d]\x7d],~schedules~:[\x7b~name~:~string~,~knownJourneys~:[\x7b~hour~:~string~,~minute~:~string~,~intervalId~:0\x7d],~firstJourney~:\x7b~hour~:~string~,~minute~:~string~,~intervalId~:0\x7d,~lastJourney~:\x7b~hour~:~string~,~minute~:~string~,~intervalId~:0\x7d,~periods~:[\x7b~type~:~Normal~,~fromTime~:\x7b~hour~:~string~,~minute~:~string~\x7d,~toTime~:\x7b~hour~:~string~,~minute~:~string~\x7d,~frequency~:\x7b~lowestFrequency~:0,~highestFrequency~:0\x7d\x7d]\x7d]\x7d]\x7d,~disambiguation~:\x7b~disambiguationOptions~:[\x7b~description~:~string~,~uri~:~string~\x7d]\x7d,~statusErrorMessage~:~string~\x7d\x7d,~text/json~:\x7b~schema~:\x7b~$ref~:~#/components/schemas/Tfl-39~\x7d,~example~:\x7b~lineId~:~string~,~lineName~:~string~,~direction~:~string~,~pdfUrl~:~string~,~stations~:[\x7b~routeId~:0,~parentId~:~string~,~stationId~:~string~,~icsId~:~string~,~topMostParentId~:~string~,~direction~:~string~,~towards~:~string~,~modes~:[~string~],~stopType~:~string~,~stopLetter~:~string~,~zone~:~string~,~accessibilitySummary~:~string~,~hasDisruption~:true,~lines~:[\x7b~id~:~string~,~name~:~string~,~uri~:~string~,~fullName~:~string~,~type~:~string~,~crowding~:\x7b~passengerFlows~:[\x7b~timeSlice~:~string~,~value~:0\x7d],~trainLoadings~:[\x7b~line~:~string~,~lineDirection~:~string~,~platformDirection~:~string~,~direction~:~string~,~naptanTo~:~string~,~timeSlice~:~string~,~value~:0\x7d]\x7d,~routeType~:~Unknown~,~status~:~Unknown~\x7d],~status~:true,~id~:~string~,~url~:~string~,~name~:~string~,~lat~:0,~lon~:0\x7d],~stops~:[\x7b~routeId~:0,~parentId~:~string~,~stationId~:~string~,~icsId~:~string~,~topMostParentId~:~string~,~direction~:~string~,~towards~:~string~,~modes~:[~string~],~stopType~:~string~,~stopLetter~:~string~,~zone~:~string~,~accessibilitySummary~:~string~,~hasDisruption~:true,~lines~:[\x7b~id~:~string~,~name~:~string~,~uri~:~string~,~fullName~:~string~,~type~:~string~,~crowding~:\x7b~passengerFlows~:[\x7b~timeSlice~:~string~,~value~:0\x7d],~trainLoadings~:[\x7b~line~:~string~,~lineDirection~:~string~,~platformDirection~:~string~,~direction~:~string~,~naptanTo~:~string~,~timeSlice~:~string~,~value~:0\x7d]\x7d,~routeType~:~Unknown~,~status~:~Unknown~\x7d],~status~:true,~id~:~string~,~url~:~string~,~name~:~string~,~lat~:0,~lon~:0\x7d],~timetable~:\x7b~departureStopId~:~string~,~routes~:[\x7b~stationIntervals~:[\x7b~id~:~string~,~intervals~:[\x7b~stopId~:~string~,~timeToArrival~:0\x7d]\x7d],~schedules~:[\x7b~name~:~string~,~knownJourneys~:[\x7b~hour~:~string~,~minute~:~string~,~intervalId~:0\x7d],~firstJourney~:\x7b~hour~:~string~,~minute~:~string~,~intervalId~:0\x7d,~lastJourney~:\x7b~hour~:~string~,~minute~:~string~,~intervalId~:0\x7d,~periods~:[\x7b~type~:~Normal~,~fromTime~:\x7b~hour~:~string~,~minute~:~string~\x7d,~toTime~:\x7b~hour~:~string~,~minute~:~string~\x7d,~frequency~:\x7b~lowestFrequency~:0,~highestFrequency~:0\x7d\x7d]\x7d]\x7d]\x7d,~disambiguation~:\x7b~disambiguationOptions~:[\x7b~description~:~string~,~uri~:~string~\x7d]\x7d,~statusErrorMessage~:~string~\x7d\x7d,~application/xml~:\x7b~schema~:\x7b~$ref~:~#/components/schemas/Tfl-39~\x7d,~example~:~<Tfl-39> <lineId>string</lineId> <lineName>string</lineName> <direction>string</direction> <pdfUrl>string</pdfUrl> <stations> <routeId>0</routeId> <parentId>string</parentId> <stationId>string</stationId> <icsId>string</icsId> <topMostParentId>string</topMostParentId> <direction>string</direction> <towards>string</towards> <modes>string</modes> <stopType>string</stopType> <stopLetter>string</stopLetter> <zone>string</zone> <accessibilitySummary>string</accessibilitySummary> <hasDisruption>true</hasDisruption> <lines> <id>string</id> <name>string</name> <uri>string</uri> <fullName>string</fullName> <type>string</type> <crowding> <passengerFlows> <timeSlice>string</timeSlice> <value>0</value> </passengerFlows> <trainLoadings> <line>string</line> <lineDirection>string</lineDirection> <platformDirection>string</platformDirection> <direction>string</direction> <naptanTo>string</naptanTo> <timeSlice>string</timeSlice> <value>0</value> </trainLoadings> </crowding> <routeType>Unknown</routeType> <status>Unknown</status> </lines> <status>true</status> <id>string</id> <url>string</url> <name>string</name> <lat>0</lat> <lon>0</lon> </stations> <stops> <routeId>0</routeId> <parentId>string</parentId> <stationId>string</stationId> <icsId>string</icsId> <topMostParentId>string</topMostParentId> <direction>string</direction> <towards>string</towards> <modes>string</modes> <stopType>string</stopType> <stopLetter>string</stopLetter> <zone>string</zone> <accessibilitySummary>string</accessibilitySummary> <hasDisruption>true</hasDisruption> <lines> <id>string</id> <name>string</name> <uri>string</uri> <fullName>string</fullName> <type>string</type> <crowding> <passengerFlows> <timeSlice>string</timeSlice> <value>0</value> </passengerFlows> <trainLoadings> <line>string</line> <lineDirection>string</lineDirection> <platformDirection>string</platformDirection> <direction>string</direction> <naptanTo>string</naptanTo> <timeSlice>string</timeSlice> <value>0</value> </trainLoadings> </crowding> <routeType>Unknown</routeType> <status>Unknown</status> </lines> <status>true</status> <id>string</id> <url>string</url> <name>string</name> <lat>0</lat> <lon>0</lon> </stops> <timetable> <departureStopId>string</departureStopId> <routes> <stationIntervals> <id>string</id> <intervals> <stopId>string</stopId> <timeToArrival>0</timeToArrival> </intervals> </stationIntervals> <schedules> <name>string</name> <knownJourneys> <hour>string</hour> <minute>string</minute> <intervalId>0</intervalId> </knownJourneys> <firstJourney> <hour>string</hour> <minute>string</minute> <intervalId>0</intervalId> </firstJourney> <lastJourney> <hour>string</hour> <minute>string</minute> <intervalId>0</intervalId> </lastJourney> <periods> <type>Normal</type> <fromTime> <hour>string</hour> <minute>string</minute> </fromTime> <toTime> <hour>string</hour> <minute>string</minute> </toTime> <frequency> <lowestFrequency>0</lowestFrequency> <highestFrequency>0</highestFrequency> </frequency> </periods> </schedules> </routes> </timetable> <disambiguation> <disambiguationOptions> <description>string</description> <uri>string</uri> </disambiguationOptions> </disambiguation> <statusErrorMessage>string</statusErrorMessage> </Tfl-39>~\x7d,~text/xml~:\x7b~schema~:\x7b~$ref~:~#/components/schemas/Tfl-39~\x7d,~example~:~<Tfl-39> <lineId>string</lineId> <lineName>string</lineName> <direction>string</direction> <pdfUrl>string</pdfUrl> <stations> <routeId>0</routeId> <parentId>string</parentId> <stationId>string</stationId> <icsId>string</icsId> <topMostParentId>string</topMostParentId> <direction>string</direction> <towards>string</towards> <modes>string</modes> <stopType>string</stopType> <stopLetter>string</stopLetter> <zone>string</zone> <accessibilitySummary>string</accessibilitySummary> <hasDisruption>true</hasDisruption> <lines> <id>string</id> <name>string</name> <uri>string</uri> <fullName>string</fullName> <type>string</type> <crowding> <passengerFlows> <timeSlice>string</timeSlice> <value>0</value> </passengerFlows> <trainLoadings> <line>string</line> <lineDirection>string</lineDirection> <platformDirection>string</platformDirection> <direction>string</direction> <naptanTo>string</naptanTo> <timeSlice>string</timeSlice> <value>0</value> </trainLoadings> </crowding> <routeType>Unknown</routeType> <status>Unknown</status> </lines> <status>true</status> <id>string</id> <url>string</url> <name>string</name> <lat>0</lat> <lon>0</lon> </stations> <stops> <routeId>0</routeId> <parentId>string</parentId> <stationId>string</stationId> <icsId>string</icsId> <topMostParentId>string</topMostParentId> <direction>string</direction> <towards>string</towards> <modes>string</modes> <stopType>string</stopType> <stopLetter>string</stopLetter> <zone>string</zone> <accessibilitySummary>string</accessibilitySummary> <hasDisruption>true</hasDisruption> <lines> <id>string</id> <name>string</name> <uri>string</uri> <fullName>string</fullName> <type>string</type> <crowding> <passengerFlows> <timeSlice>string</timeSlice> <value>0</value> </passengerFlows> <trainLoadings> <line>string</line> <lineDirection>string</lineDirection> <platformDirection>string</platformDirection> <direction>string</direction> <naptanTo>string</naptanTo> <timeSlice>string</timeSlice> <value>0</value> </trainLoadings> </crowding> <routeType>Unknown</routeType> <status>Unknown</status> </lines> <status>true</status> <id>string</id> <url>string</url> <name>string</name> <lat>0</lat> <lon>0</lon> </stops> <timetable> <departureStopId>string</departureStopId> <routes> <stationIntervals> <id>string</id> <intervals> <stopId>string</stopId> <timeToArrival>0</timeToArrival> </intervals> </stationIntervals> <schedules> <name>string</name> <knownJourneys> <hour>string</hour> <minute>string</minute> <intervalId>0</intervalId> </knownJourneys> <firstJourney> <hour>string</hour> <minute>string</minute> <intervalId>0</intervalId> </firstJourney> <lastJourney> <hour>string</hour> <minute>string</minute> <intervalId>0</intervalId> </lastJourney> <periods> <type>Normal</type> <fromTime> <hour>string</hour> <minute>string</minute> </fromTime> <toTime> <hour>string</hour> <minute>string</minute> </toTime> <frequency> <lowestFrequency>0</lowestFrequency> <highestFrequency>0</highestFrequency> </frequency> </periods> </schedules> </routes> </timetable> <disambiguation> <disambiguationOptions> <description>string</description> <uri>string</uri> </disambiguationOptions> </disambiguation> <statusErrorMessage>string</statusErrorMessage> </Tfl-39>~\x7d\x7d\x7d\x7d\x7d\x7d,~/\x7bid\x7d/Timetable/\x7bfromStopPointId\x7d/to/\x7btoStopPointId\x7d~:\x7b~get~:\x7b~tags~:[~Line~],~summary~:~Gets the timetable for a specified station on the give line with specified destination~,~description~:~Gets the timetable for a specified station on the give line with specified destination~,~operationId~:~Line_TimetableToByPathFromStopPointIdPathIdPathToStopPointId~,~parameters~:[\x7b~name~:~fromStopPointId~,~in~:~path~,~description~:~The originating station's stop point id (station naptan code e.g. 940GZZLUASL, you can use /StopPoint/Search/\x7bquery\x7d endpoint to find a stop point id from a station name)~,~required~:true,~schema~:\x7b~type~:~string~\x7d,~example~:~940GZZLUVIC~\x7d,\x7b~name~:~id~,~in~:~path~,~description~:~A single line id e.g. victoria~,~required~:true,~schema~:\x7b~type~:~string~\x7d,~example~:~victoria~\x7d,\x7b~name~:~toStopPointId~,~in~:~path~,~description~:~The destination stations's Naptan code~,~required~:true,~schema~:\x7b~type~:~string~\x7d,~example~:~940GZZLUGPK~\x7d],~responses~:\x7b~200~:\x7b~description~:~OK~,~content~:\x7b~application/json~:\x7b~schema~:\x7b~$ref~:~#/components/schemas/Tfl-39~\x7d,~example~:\x7b~lineId~:~string~,~lineName~:~string~,~direction~:~string~,~pdfUrl~:~string~,~stations~:[\x7b~routeId~:0,~parentId~:~string~,~stationId~:~string~,~icsId~:~string~,~topMostParentId~:~string~,~direction~:~string~,~towards~:~string~,~modes~:[~string~],~stopType~:~string~,~stopLetter~:~string~,~zone~:~string~,~accessibilitySummary~:~string~,~hasDisruption~:true,~lines~:[\x7b~id~:~string~,~name~:~string~,~uri~:~string~,~fullName~:~string~,~type~:~string~,~crowding~:\x7b~passengerFlows~:[\x7b~timeSlice~:~string~,~value~:0\x7d],~trainLoadings~:[\x7b~line~:~string~,~lineDirection~:~string~,~platformDirection~:~string~,~direction~:~string~,~naptanTo~:~string~,~timeSlice~:~string~,~value~:0\x7d]\x7d,~routeType~:~Unknown~,~status~:~Unknown~\x7d],~status~:true,~id~:~string~,~url~:~string~,~name~:~string~,~lat~:0,~lon~:0\x7d],~stops~:[\x7b~routeId~:0,~parentId~:~string~,~stationId~:~string~,~icsId~:~string~,~topMostParentId~:~string~,~direction~:~string~,~towards~:~string~,~modes~:[~string~],~stopType~:~string~,~stopLetter~:~string~,~zone~:~string~,~accessibilitySummary~:~string~,~hasDisruption~:true,~lines~:[\x7b~id~:~string~,~name~:~string~,~uri~:~string~,~fullName~:~string~,~type~:~string~,~crowding~:\x7b~passengerFlows~:[\x7b~timeSlice~:~string~,~value~:0\x7d],~trainLoadings~:[\x7b~line~:~string~,~lineDirection~:~string~,~platformDirection~:~string~,~direction~:~string~,~naptanTo~:~string~,~timeSlice~:~string~,~value~:0\x7d]\x7d,~routeType~:~Unknown~,~status~:~Unknown~\x7d],~status~:true,~id~:~string~,~url~:~string~,~name~:~string~,~lat~:0,~lon~:0\x7d],~timetable~:\x7b~departureStopId~:~string~,~routes~:[\x7b~stationIntervals~:[\x7b~id~:~string~,~intervals~:[\x7b~stopId~:~string~,~timeToArrival~:0\x7d]\x7d],~schedules~:[\x7b~name~:~string~,~knownJourneys~:[\x7b~hour~:~string~,~minute~:~string~,~intervalId~:0\x7d],~firstJourney~:\x7b~hour~:~string~,~minute~:~string~,~intervalId~:0\x7d,~lastJourney~:\x7b~hour~:~string~,~minute~:~string~,~intervalId~:0\x7d,~periods~:[\x7b~type~:~Normal~,~fromTime~:\x7b~hour~:~string~,~minute~:~string~\x7d,~toTime~:\x7b~hour~:~string~,~minute~:~string~\x7d,~frequency~:\x7b~lowestFrequency~:0,~highestFrequency~:0\x7d\x7d]\x7d]\x7d]\x7d,~disambiguation~:\x7b~disambiguationOptions~:[\x7b~description~:~string~,~uri~:~string~\x7d]\x7d,~statusErrorMessage~:~string~\x7d\x7d,~text/json~:\x7b~schema~:\x7b~$ref~:~#/components/schemas/Tfl-39~\x7d,~example~:\x7b~lineId~:~string~,~lineName~:~string~,~direction~:~string~,~pdfUrl~:~string~,~stations~:[\x7b~routeId~:0,~parentId~:~string~,~stationId~:~string~,~icsId~:~string~,~topMostParentId~:~string~,~direction~:~string~,~towards~:~string~,~modes~:[~string~],~stopType~:~string~,~stopLetter~:~string~,~zone~:~string~,~accessibilitySummary~:~string~,~hasDisruption~:true,~lines~:[\x7b~id~:~string~,~name~:~string~,~uri~:~string~,~fullName~:~string~,~type~:~string~,~crowding~:\x7b~passengerFlows~:[\x7b~timeSlice~:~string~,~value~:0\x7d],~trainLoadings~:[\x7b~line~:~string~,~lineDirection~:~string~,~platformDirection~:~string~,~direction~:~string~,~naptanTo~:~string~,~timeSlice~:~string~,~value~:0\x7d]\x7d,~routeType~:~Unknown~,~status~:~Unknown~\x7d],~status~:true,~id~:~string~,~url~:~string~,~name~:~string~,~lat~:0,~lon~:0\x7d],~stops~:[\x7b~routeId~:0,~parentId~:~string~,~stationId~:~string~,~icsId~:~string~,~topMostParentId~:~string~,~direction~:~string~,~towards~:~string~,~modes~:[~string~],~stopType~:~string~,~stopLetter~:~string~,~zone~:~string~,~accessibilitySummary~:~string~,~hasDisruption~:true,~lines~:[\x7b~id~:~string~,~name~:~string~,~uri~:~string~,~fullName~:~string~,~type~:~string~,~crowding~:\x7b~passengerFlows~:[\x7b~timeSlice~:~string~,~value~:0\x7d],~trainLoadings~:[\x7b~line~:~string~,~lineDirection~:~string~,~platformDirection~:~string~,~direction~:~string~,~naptanTo~:~string~,~timeSlice~:~string~,~value~:0\x7d]\x7d,~routeType~:~Unknown~,~status~:~Unknown~\x7d],~status~:true,~id~:~string~,~url~:~string~,~name~:~string~,~lat~:0,~lon~:0\x7d],~timetable~:\x7b~departureStopId~:~string~,~routes~:[\x7b~stationIntervals~:[\x7b~id~:~string~,~intervals~:[\x7b~stopId~:~string~,~timeToArrival~:0\x7d]\x7d],~schedules~:[\x7b~name~:~string~,~knownJourneys~:[\x7b~hour~:~string~,~minute~:~string~,~intervalId~:0\x7d],~firstJourney~:\x7b~hour~:~string~,~minute~:~string~,~intervalId~:0\x7d,~lastJourney~:\x7b~hour~:~string~,~minute~:~string~,~intervalId~:0\x7d,~periods~:[\x7b~type~:~Normal~,~fromTime~:\x7b~hour~:~string~,~minute~:~string~\x7d,~toTime~:\x7b~hour~:~string~,~minute~:~string~\x7d,~frequency~:\x7b~lowestFrequency~:0,~highestFrequency~:0\x7d\x7d]\x7d]\x7d]\x7d,~disambiguation~:\x7b~disambiguationOptions~:[\x7b~description~:~string~,~uri~:~string~\x7d]\x7d,~statusErrorMessage~:~string~\x7d\x7d,~application/xml~:\x7b~schema~:\x7b~$ref~:~#/components/schemas/Tfl-39~\x7d,~example~:~<Tfl-39> <lineId>string</lineId> <lineName>string</lineName> <direction>string</direction> <pdfUrl>string</pdfUrl> <stations> <routeId>0</routeId> <parentId>string</parentId> <stationId>string</stationId> <icsId>string</icsId> <topMostParentId>string</topMostParentId> <direction>string</direction> <towards>string</towards> <modes>string</modes> <stopType>string</stopType> <stopLetter>string</stopLetter> <zone>string</zone> <accessibilitySummary>string</accessibilitySummary> <hasDisruption>true</hasDisruption> <lines> <id>string</id> <name>string</name> <uri>string</uri> <fullName>string</fullName> <type>string</type> <crowding> <passengerFlows> <timeSlice>string</timeSlice> <value>0</value> </passengerFlows> <trainLoadings> <line>string</line> <lineDirection>string</lineDirection> <platformDirection>string</platformDirection> <direction>string</direction> <naptanTo>string</naptanTo> <timeSlice>string</timeSlice> <value>0</value> </trainLoadings> </crowding> <routeType>Unknown</routeType> <status>Unknown</status> </lines> <status>true</status> <id>string</id> <url>string</url> <name>string</name> <lat>0</lat> <lon>0</lon> </stations> <stops> <routeId>0</routeId> <parentId>string</parentId> <stationId>string</stationId> <icsId>string</icsId> <topMostParentId>string</topMostParentId> <direction>string</direction> <towards>string</towards> <modes>string</modes> <stopType>string</stopType> <stopLetter>string</stopLetter> <zone>string</zone> <accessibilitySummary>string</accessibilitySummary> <hasDisruption>true</hasDisruption> <lines> <id>string</id> <name>string</name> <uri>string</uri> <fullName>string</fullName> <type>string</type> <crowding> <passengerFlows> <timeSlice>string</timeSlice> <value>0</value> </passengerFlows> <trainLoadings> <line>string</line> <lineDirection>string</lineDirection> <platformDirection>string</platformDirection> <direction>string</direction> <naptanTo>string</naptanTo> <timeSlice>string</timeSlice> <value>0</value> </trainLoadings> </crowding> <routeType>Unknown</routeType> <status>Unknown</status> </lines> <status>true</status> <id>string</id> <url>string</url> <name>string</name> <lat>0</lat> <lon>0</lon> </stops> <timetable> <departureStopId>string</departureStopId> <routes> <stationIntervals> <id>string</id> <intervals> <stopId>string</stopId> <timeToArrival>0</timeToArrival> </intervals> </stationIntervals> <schedules> <name>string</name> <knownJourneys> <hour>string</hour> <minute>string</minute> <intervalId>0</intervalId> </knownJourneys> <firstJourney> <hour>string</hour> <minute>string</minute> <intervalId>0</intervalId> </firstJourney> <lastJourney> <hour>string</hour> <minute>string</minute> <intervalId>0</intervalId> </lastJourney> <periods> <type>Normal</type> <fromTime> <hour>string</hour> <minute>string</minute> </fromTime> <toTime> <hour>string</hour> <minute>string</minute> </toTime> <frequency> <lowestFrequency>0</lowestFrequency> <highestFrequency>0</highestFrequency> </frequency> </periods> </schedules> </routes> </timetable> <disambiguation> <disambiguationOptions> <description>string</description> <uri>string</uri> </disambiguationOptions> </disambiguation> <statusErrorMessage>string</statusErrorMessage> </Tfl-39>~\x7d,~text/xml~:\x7b~schema~:\x7b~$ref~:~#/components/schemas/Tfl-39~\x7d,~example~:~<Tfl-39> <lineId>string</lineId> <lineName>string</lineName> <direction>string</direction> <pdfUrl>string</pdfUrl> <stations> <routeId>0</routeId> <parentId>string</parentId> <stationId>string</stationId> <icsId>string</icsId> <topMostParentId>string</topMostParentId> <direction>string</direction> <towards>string</towards> <modes>string</modes> <stopType>string</stopType> <stopLetter>string</stopLetter> <zone>string</zone> <accessibilitySummary>string</accessibilitySummary> <hasDisruption>true</hasDisruption> <lines> <id>string</id> <name>string</name> <uri>string</uri> <fullName>string</fullName> <type>string</type> <crowding> <passengerFlows> <timeSlice>string</timeSlice> <value>0</value> </passengerFlows> <trainLoadings> <line>string</line> <lineDirection>string</lineDirection> <platformDirection>string</platformDirection> <direction>string</direction> <naptanTo>string</naptanTo> <timeSlice>string</timeSlice> <value>0</value> </trainLoadings> </crowding> <routeType>Unknown</routeType> <status>Unknown</status> </lines> <status>true</status> <id>string</id> <url>string</url> <name>string</name> <lat>0</lat> <lon>0</lon> </stations> <stops> <routeId>0</routeId> <parentId>string</parentId> <stationId>string</stationId> <icsId>string</icsId> <topMostParentId>string</topMostParentId> <direction>string</direction> <towards>string</towards> <modes>string</modes> <stopType>string</stopType> <stopLetter>string</stopLetter> <zone>string</zone> <accessibilitySummary>string</accessibilitySummary> <hasDisruption>true</hasDisruption> <lines> <id>string</id> <name>string</name> <uri>string</uri> <fullName>string</fullName> <type>string</type> <crowding> <passengerFlows> <timeSlice>string</timeSlice> <value>0</value> </passengerFlows> <trainLoadings> <line>string</line> <lineDirection>string</lineDirection> <platformDirection>string</platformDirection> <direction>string</direction> <naptanTo>string</naptanTo> <timeSlice>string</timeSlice> <value>0</value> </trainLoadings> </crowding> <routeType>Unknown</routeType> <status>Unknown</status> </lines> <status>true</status> <id>string</id> <url>string</url> <name>string</name> <lat>0</lat> <lon>0</lon> </stops> <timetable> <departureStopId>string</departureStopId> <routes> <stationIntervals> <id>string</id> <intervals> <stopId>string</stopId> <timeToArrival>0</timeToArrival> </intervals> </stationIntervals> <schedules> <name>string</name> <knownJourneys> <hour>string</hour> <minute>string</minute> <intervalId>0</intervalId> </knownJourneys> <firstJourney> <hour>string</hour> <minute>string</minute> <intervalId>0</intervalId> </firstJourney> <lastJourney> <hour>string</hour> <minute>string</minute> <intervalId>0</intervalId> </lastJourney> <periods> <type>Normal</type> <fromTime> <hour>string</hour> <minute>string</minute> </fromTime> <toTime> <hour>string</hour> <minute>string</minute> </toTime> <frequency> <lowestFrequency>0</lowestFrequency> <highestFrequency>0</highestFrequency> </frequency> </periods> </schedules> </routes> </timetable> <disambiguation> <disambiguationOptions> <description>string</description> <uri>string</uri> </disambiguationOptions> </disambiguation> <statusErrorMessage>string</statusErrorMessage> </Tfl-39>~\x7d\x7d\x7d\x7d\x7d\x7d,~/\x7bids\x7d/Disruption~:\x7b~get~:\x7b~tags~:[~Line~],~summary~:~Get disruptions for the given line ids~,~description~:~Get disruptions for the given line ids~,~operationId~:~Line_DisruptionByPathIds~,~parameters~:[\x7b~name~:~ids~,~in~:~path~,~description~:~A comma-separated list of line ids e.g. victoria,circle,N133. Max. approx. 20 ids.~,~required~:true,~schema~:\x7b~type~:~string~\x7d,~example~:~victoria~\x7d],~responses~:\x7b~200~:\x7b~description~:~OK~,~content~:\x7b~application/json~:\x7b~schema~:\x7b~$ref~:~#/components/schemas/ids-DisruptionGet200ApplicationJsonResponse~\x7d\x7d,~text/json~:\x7b~schema~:\x7b~$ref~:~#/components/schemas/ids-DisruptionGet200TextJsonResponse~\x7d\x7d,~application/xml~:\x7b~schema~:\x7b~$ref~:~#/components/schemas/ids-DisruptionGet200ApplicationXmlResponse~\x7d\x7d,~text/xml~:\x7b~schema~:\x7b~$ref~:~#/components/schemas/ids-DisruptionGet200TextXmlResponse~\x7d\x7d\x7d\x7d\x7d\x7d\x7d,~/Mode/\x7bmodes\x7d/Disruption~:\x7b~get~:\x7b~tags~:[~Line~],~summary~:~Get disruptions for all lines of the given modes.~,~description~:~Get disruptions for all lines of the given modes.~,~operationId~:~Line_DisruptionByModeByPathModes~,~parameters~:[\x7b~name~:~modes~,~in~:~path~,~description~:~A comma-separated list of modes e.g. tube,dlr~,~required~:true,~schema~:\x7b~type~:~string~\x7d,~example~:~tube~\x7d],~responses~:\x7b~200~:\x7b~description~:~OK~,~content~:\x7b~application/json~:\x7b~schema~:\x7b~$ref~:~#/components/schemas/Mode-modes-DisruptionGet200ApplicationJsonResponse~\x7d\x7d,~text/json~:\x7b~schema~:\x7b~$ref~:~#/components/schemas/Mode-modes-DisruptionGet200TextJsonResponse~\x7d\x7d,~application/xml~:\x7b~schema~:\x7b~$ref~:~#/components/schemas/Mode-modes-DisruptionGet200ApplicationXmlResponse~\x7d\x7d,~text/xml~:\x7b~schema~:\x7b~$ref~:~#/components/schemas/Mode-modes-DisruptionGet200TextXmlResponse~\x7d\x7d\x7d\x7d\x7d\x7d\x7d,~/\x7bids\x7d/Arrivals/\x7bstopPointId\x7d~:\x7b~get~:\x7b~tags~:[~Line~],~summary~:~Get the list of arrival predictions for given line ids based at the given stop~,~description~:~Get the list of arrival predictions for given line ids based at the given stop~,~operationId~:~Line_ArrivalsWithStopPointByPathIdsPathStopPointIdQueryDirectionQueryDestina~,~parameters~:[\x7b~name~:~ids~,~in~:~path~,~description~:~A comma-separated list of line ids e.g. victoria,circle,N133. Max. approx. 20 ids.~,~required~:true,~schema~:\x7b~type~:~string~\x7d,~example~:~victoria~\x7d,\x7b~name~:~stopPointId~,~in~:~path~,~description~:~Optional. Id of stop to get arrival predictions for (station naptan code e.g. 940GZZLUASL, you can use /StopPoint/Search/\x7bquery\x7d endpoint to find a stop point id from a station name)~,~required~:true,~schema~:\x7b~type~:~string~\x7d,~example~:~940GZZLUVIC~\x7d,\x7b~name~:~direction~,~in~:~query~,~description~:~Optional. The direction of travel. Can be inbound or outbound or all. If left blank, and destinationStopId is set, will default to all~,~schema~:\x7b~enum~:[~inbound~,~outbound~,~all~],~type~:~string~\x7d\x7d,\x7b~name~:~destinationStationId~,~in~:~query~,~description~:~Optional. Id of destination stop~,~schema~:\x7b~type~:~string~\x7d\x7d],~responses~:\x7b~200~:\x7b~description~:~OK~,~content~:\x7b~application/json~:\x7b~schema~:\x7b~$ref~:~#/components/schemas/ids-Arrivals-stopPointId-Get200ApplicationJsonResponse~\x7d,~example~:[\x7b~id~:~string~,~operationType~:0,~vehicleId~:~string~,~naptanId~:~string~,~stationName~:~string~,~lineId~:~string~,~lineName~:~string~,~platformName~:~string~,~direction~:~string~,~bearing~:~string~,~destinationNaptanId~:~string~,~destinationName~:~string~,~timestamp~:~string~,~timeToStation~:0,~currentLocation~:~string~,~towards~:~string~,~expectedArrival~:~string~,~timeToLive~:~string~,~modeName~:~string~,~timing~:\x7b~countdownServerAdjustment~:~string~,~source~:~string~,~insert~:~string~,~read~:~string~,~sent~:~string~,~received~:~string~\x7d\x7d]\x7d,~text/json~:\x7b~schema~:\x7b~$ref~:~#/components/schemas/ids-Arrivals-stopPointId-Get200TextJsonResponse~\x7d,~example~:[\x7b~id~:~string~,~operationType~:0,~vehicleId~:~string~,~naptanId~:~string~,~stationName~:~string~,~lineId~:~string~,~lineName~:~string~,~platformName~:~string~,~direction~:~string~,~bearing~:~string~,~destinationNaptanId~:~string~,~destinationName~:~string~,~timestamp~:~string~,~timeToStation~:0,~currentLocation~:~string~,~towards~:~string~,~expectedArrival~:~string~,~timeToLive~:~string~,~modeName~:~string~,~timing~:\x7b~countdownServerAdjustment~:~string~,~source~:~string~,~insert~:~string~,~read~:~string~,~sent~:~string~,~received~:~string~\x7d\x7d]\x7d,~application/xml~:\x7b~schema~:\x7b~$ref~:~#/components/schemas/ids-Arrivals-stopPointId-Get200ApplicationXmlResponse~\x7d,~example~:~<ids-Arrivals-stopPointId-Get200ApplicationXmlResponse> <id>string</id> <operationType>0</operationType> <vehicleId>string</vehicleId> <naptanId>string</naptanId> <stationName>string</stationName> <lineId>string</lineId> <lineName>string</lineName> <platformName>string</platformName> <direction>string</direction> <bearing>string</bearing> <destinationNaptanId>string</destinationNaptanId> <destinationName>string</destinationName> <timestamp>string</timestamp> <timeToStation>0</timeToStation> <currentLocation>string</currentLocation> <towards>string</towards> <expectedArrival>string</expectedArrival> <timeToLive>string</timeToLive> <modeName>string</modeName> <timing> <countdownServerAdjustment>string</countdownServerAdjustment> <source>string</source> <insert>string</insert> <read>string</read> <sent>string</sent> <received>string</received> </timing> </ids-Arrivals-stopPointId-Get200ApplicationXmlResponse>~\x7d,~text/xml~:\x7b~schema~:\x7b~$ref~:~#/components/schemas/ids-Arrivals-stopPointId-Get200TextXmlResponse~\x7d,~example~:~<ids-Arrivals-stopPointId-Get200TextXmlResponse> <id>string</id> <operationType>0</operationType> <vehicleId>string</vehicleId> <naptanId>string</naptanId> <stationName>string</stationName> <lineId>string</lineId> <lineName>string</lineName> <platformName>string</platformName> <direction>string</direction> <bearing>string</bearing> <destinationNaptanId>string</destinationNaptanId> <destinationName>string</destinationName> <timestamp>string</timestamp> <timeToStation>0</timeToStation> <currentLocation>string</currentLocation> <towards>string</towards> <expectedArrival>string</expectedArrival> <timeToLive>string</timeToLive> <modeName>string</modeName> <timing> <countdownServerAdjustment>string</countdownServerAdjustment> <source>string</source> <insert>string</insert> <read>string</read> <sent>string</sent> <received>string</received> </timing> </ids-Arrivals-stopPointId-Get200TextXmlResponse>~\x7d\x7d\x7d\x7d\x7d\x7d,~/\x7bids\x7d/Arrivals~:\x7b~get~:\x7b~tags~:[~Line~],~summary~:~Get the list of arrival predictions for given line ids based at the given stop~,~description~:~Get the list of arrival predictions for given line ids based at the given stop~,~operationId~:~Line_ArrivalsByPathIds~,~parameters~:[\x7b~name~:~ids~,~in~:~path~,~description~:~A comma-separated list of line ids e.g. victoria,circle,N133. Max. approx. 20 ids.~,~required~:true,~schema~:\x7b~type~:~string~\x7d,~example~:~victoria~\x7d],~responses~:\x7b~200~:\x7b~description~:~OK~,~content~:\x7b~application/json~:\x7b~schema~:\x7b~$ref~:~#/components/schemas/ids-ArrivalsGet200ApplicationJsonResponse~\x7d,~example~:[\x7b~id~:~string~,~operationType~:0,~vehicleId~:~string~,~naptanId~:~string~,~stationName~:~string~,~lineId~:~string~,~lineName~:~string~,~platformName~:~string~,~direction~:~string~,~bearing~:~string~,~destinationNaptanId~:~string~,~destinationName~:~string~,~timestamp~:~string~,~timeToStation~:0,~currentLocation~:~string~,~towards~:~string~,~expectedArrival~:~string~,~timeToLive~:~string~,~modeName~:~string~,~timing~:\x7b~countdownServerAdjustment~:~string~,~source~:~string~,~insert~:~string~,~read~:~string~,~sent~:~string~,~received~:~string~\x7d\x7d]\x7d,~text/json~:\x7b~schema~:\x7b~$ref~:~#/components/schemas/ids-ArrivalsGet200TextJsonResponse~\x7d,~example~:[\x7b~id~:~string~,~operationType~:0,~vehicleId~:~string~,~naptanId~:~string~,~stationName~:~string~,~lineId~:~string~,~lineName~:~string~,~platformName~:~string~,~direction~:~string~,~bearing~:~string~,~destinationNaptanId~:~string~,~destinationName~:~string~,~timestamp~:~string~,~timeToStation~:0,~currentLocation~:~string~,~towards~:~string~,~expectedArrival~:~string~,~timeToLive~:~string~,~modeName~:~string~,~timing~:\x7b~countdownServerAdjustment~:~string~,~source~:~string~,~insert~:~string~,~read~:~string~,~sent~:~string~,~received~:~string~\x7d\x7d]\x7d,~application/xml~:\x7b~schema~:\x7b~$ref~:~#/components/schemas/ids-ArrivalsGet200ApplicationXmlResponse~\x7d,~example~:~<ids-ArrivalsGet200ApplicationXmlResponse> <id>string</id> <operationType>0</operationType> <vehicleId>string</vehicleId> <naptanId>string</naptanId> <stationName>string</stationName> <lineId>string</lineId> <lineName>string</lineName> <platformName>string</platformName> <direction>string</direction> <bearing>string</bearing> <destinationNaptanId>string</destinationNaptanId> <destinationName>string</destinationName> <timestamp>string</timestamp> <timeToStation>0</timeToStation> <currentLocation>string</currentLocation> <towards>string</towards> <expectedArrival>string</expectedArrival> <timeToLive>string</timeToLive> <modeName>string</modeName> <timing> <countdownServerAdjustment>string</countdownServerAdjustment> <source>string</source> <insert>string</insert> <read>string</read> <sent>string</sent> <received>string</received> </timing> </ids-ArrivalsGet200ApplicationXmlResponse>~\x7d,~text/xml~:\x7b~schema~:\x7b~$ref~:~#/components/schemas/ids-ArrivalsGet200TextXmlResponse~\x7d,~example~:~<ids-ArrivalsGet200TextXmlResponse> <id>string</id> <operationType>0</operationType> <vehicleId>string</vehicleId> <naptanId>string</naptanId> <stationName>string</stationName> <lineId>string</lineId> <lineName>string</lineName> <platformName>string</platformName> <direction>string</direction> <bearing>string</bearing> <destinationNaptanId>string</destinationNaptanId> <destinationName>string</destinationName> <timestamp>string</timestamp> <timeToStation>0</timeToStation> <currentLocation>string</currentLocation> <towards>string</towards> <expectedArrival>string</expectedArrival> <timeToLive>string</timeToLive> <modeName>string</modeName> <timing> <countdownServerAdjustment>string</countdownServerAdjustment> <source>string</source> <insert>string</insert> <read>string</read> <sent>string</sent> <received>string</received> </timing> </ids-ArrivalsGet200TextXmlResponse>~\x7d\x7d\x7d\x7d\x7d\x7d,~/*~:\x7b~get~:\x7b~tags~:[~StopPoint~],~summary~:~Forwards any remaining requests to the back-end~,~description~:~Forwards any remaining requests to the back-end~,~operationId~:~Forward_Proxy~,~responses~:\x7b~200~:\x7b~description~:~OK~,~content~:\x7b~application/json~:\x7b~schema~:\x7b~$ref~:~#/components/schemas/Get200ApplicationJsonResponse~\x7d\x7d\x7d\x7d\x7d\x7d\x7d\x7d,~components~:\x7b~schemas~:\x7b~Tfl~:\x7b~type~:~object~,~properties~:\x7b~isTflService~:\x7b~type~:~boolean~\x7d,~isFarePaying~:\x7b~type~:~boolean~\x7d,~isScheduledService~:\x7b~type~:~boolean~\x7d,~modeName~:\x7b~type~:~string~\x7d\x7d\x7d,~Tfl-2~:\x7b~type~:~object~,~properties~:\x7b~modeName~:\x7b~type~:~string~\x7d,~severityLevel~:\x7b~type~:~integer~,~format~:~int32~\x7d,~description~:\x7b~type~:~string~\x7d\x7d\x7d,~Tfl-3~:\x7b~type~:~object~,~properties~:\x7b~timeSlice~:\x7b~type~:~string~,~description~:~Time in 24hr format with 15 minute intervals e.g. 0500-0515, 0515-0530 etc.~\x7d,~value~:\x7b~type~:~integer~,~description~:~Count of passenger flow towards a platform~,~format~:~int32~\x7d\x7d\x7d,~Tfl-4~:\x7b~type~:~object~,~properties~:\x7b~line~:\x7b~type~:~string~,~description~:~The Line Name e.g. \\~Victoria\\~~\x7d,~lineDirection~:\x7b~type~:~string~,~description~:~Direction of the Line e.g. NB, SB, WB etc.~\x7d,~platformDirection~:\x7b~type~:~string~,~description~:~Direction displayed on the platform e.g. NB, SB, WB etc.~\x7d,~direction~:\x7b~type~:~string~,~description~:~Direction in regards to Journey Planner i.e. inbound or outbound~\x7d,~naptanTo~:\x7b~type~:~string~,~description~:~Naptan of the adjacent station~\x7d,~timeSlice~:\x7b~type~:~string~,~description~:~Time in 24hr format with 15 minute intervals e.g. 0500-0515, 0515-0530 etc.~\x7d,~value~:\x7b~type~:~integer~,~description~:~Scale between 1-6, \\r\\n             1 = Very quiet, 2 = Quiet, 3 = Fairly busy, 4 = Busy, 5 = Very busy, 6 = Exceptionally busy~,~format~:~int32~\x7d\x7d\x7d,~Tfl-5~:\x7b~type~:~object~,~properties~:\x7b~passengerFlows~:\x7b~type~:~array~,~items~:\x7b~$ref~:~#/components/schemas/Tfl-3~\x7d,~description~:~Busiest times at a station (static information)~\x7d,~trainLoadings~:\x7b~type~:~array~,~items~:\x7b~$ref~:~#/components/schemas/Tfl-4~\x7d,~description~:~Train Loading on a scale 1-6, 1 being \\~Very quiet\\~ and 6 being \\~Exceptionally busy\\~ (static information)~\x7d\x7d\x7d,~Tfl-6~:\x7b~type~:~object~,~properties~:\x7b~id~:\x7b~type~:~string~\x7d,~name~:\x7b~type~:~string~\x7d,~uri~:\x7b~type~:~string~\x7d,~fullName~:\x7b~type~:~string~\x7d,~type~:\x7b~type~:~string~\x7d,~crowding~:\x7b~$ref~:~#/components/schemas/Tfl-5~\x7d,~routeType~:\x7b~enum~:[~Unknown~,~All~,~Cycle Superhighways~,~Quietways~,~Cycleways~,~Mini-Hollands~,~Central London Grid~,~Streetspace Route~],~type~:~string~\x7d,~status~:\x7b~enum~:[~Unknown~,~All~,~Open~,~In Progress~,~Planned~,~Planned - Subject to feasibility and consultation.~,~Not Open~],~type~:~string~\x7d\x7d\x7d,~Tfl-7~:\x7b~type~:~object~,~properties~:\x7b~naptanIdReference~:\x7b~type~:~string~\x7d,~stationAtcoCode~:\x7b~type~:~string~\x7d,~lineIdentifier~:\x7b~type~:~array~,~items~:\x7b~type~:~string~\x7d\x7d\x7d\x7d,~Tfl-8~:\x7b~type~:~object~,~properties~:\x7b~modeName~:\x7b~type~:~string~\x7d,~lineIdentifier~:\x7b~type~:~array~,~items~:\x7b~type~:~string~\x7d\x7d\x7d\x7d,~Tfl-9~:\x7b~type~:~object~,~properties~:\x7b~category~:\x7b~type~:~string~\x7d,~key~:\x7b~type~:~string~\x7d,~sourceSystemKey~:\x7b~type~:~string~\x7d,~value~:\x7b~type~:~string~\x7d,~modified~:\x7b~type~:~string~,~format~:~date-time~\x7d\x7d\x7d,~Tfl-10~:\x7b~type~:~object~,~properties~:\x7b~id~:\x7b~type~:~string~,~description~:~A unique identifier.~\x7d,~url~:\x7b~type~:~string~,~description~:~The unique location of this resource.~\x7d,~commonName~:\x7b~type~:~string~,~description~:~A human readable name.~\x7d,~distance~:\x7b~type~:~number~,~description~:~The distance of the place from its search point, if this is the result\\r\\n            of a geographical search, otherwise zero.~,~format~:~double~\x7d,~placeType~:\x7b~type~:~string~,~description~:~The type of Place. See /Place/Meta/placeTypes for possible values.~\x7d,~additionalProperties~:\x7b~type~:~array~,~items~:\x7b~$ref~:~#/components/schemas/Tfl-9~\x7d,~description~:~A bag of additional key/value pairs with extra information about this place.~\x7d,~children~:\x7b~type~:~array~,~items~:\x7b~$ref~:~#/components/schemas/Tfl-10~\x7d\x7d,~childrenUrls~:\x7b~type~:~array~,~items~:\x7b~type~:~string~\x7d\x7d,~lat~:\x7b~type~:~number~,~description~:~WGS84 latitude of the location.~,~format~:~double~\x7d,~lon~:\x7b~type~:~number~,~description~:~WGS84 longitude of the location.~,~format~:~double~\x7d\x7d\x7d,~Tfl-11~:\x7b~type~:~object~,~properties~:\x7b~naptanId~:\x7b~type~:~string~\x7d,~platformName~:\x7b~type~:~string~\x7d,~indicator~:\x7b~type~:~string~,~description~:~The indicator of the stop point e.g. \\~Stop K\\~~\x7d,~stopLetter~:\x7b~type~:~string~,~description~:~The stop letter, if it could be cleansed from the Indicator e.g. \\~K\\~~\x7d,~modes~:\x7b~type~:~array~,~items~:\x7b~type~:~string~\x7d\x7d,~icsCode~:\x7b~type~:~string~\x7d,~smsCode~:\x7b~type~:~string~\x7d,~stopType~:\x7b~type~:~string~\x7d,~stationNaptan~:\x7b~type~:~string~\x7d,~accessibilitySummary~:\x7b~type~:~string~\x7d,~hubNaptanCode~:\x7b~type~:~string~\x7d,~lines~:\x7b~type~:~array~,~items~:\x7b~$ref~:~#/components/schemas/Tfl-6~\x7d\x7d,~lineGroup~:\x7b~type~:~array~,~items~:\x7b~$ref~:~#/components/schemas/Tfl-7~\x7d\x7d,~lineModeGroups~:\x7b~type~:~array~,~items~:\x7b~$ref~:~#/components/schemas/Tfl-8~\x7d\x7d,~fullName~:\x7b~type~:~string~\x7d,~naptanMode~:\x7b~type~:~string~\x7d,~status~:\x7b~type~:~boolean~\x7d,~id~:\x7b~type~:~string~,~description~:~A unique identifier.~\x7d,~url~:\x7b~type~:~string~,~description~:~The unique location of this resource.~\x7d,~commonName~:\x7b~type~:~string~,~description~:~A human readable name.~\x7d,~distance~:\x7b~type~:~number~,~description~:~The distance of the place from its search point, if this is the result\\r\\n            of a geographical search, otherwise zero.~,~format~:~double~\x7d,~placeType~:\x7b~type~:~string~,~description~:~The type of Place. See /Place/Meta/placeTypes for possible values.~\x7d,~additionalProperties~:\x7b~type~:~array~,~items~:\x7b~$ref~:~#/components/schemas/Tfl-9~\x7d,~description~:~A bag of additional key/value pairs with extra information about this place.~\x7d,~children~:\x7b~type~:~array~,~items~:\x7b~$ref~:~#/components/schemas/Tfl-10~\x7d\x7d,~childrenUrls~:\x7b~type~:~array~,~items~:\x7b~type~:~string~\x7d\x7d,~lat~:\x7b~type~:~number~,~description~:~WGS84 latitude of the location.~,~format~:~double~\x7d,~lon~:\x7b~type~:~number~,~description~:~WGS84 longitude of the location.~,~format~:~double~\x7d\x7d\x7d,~Tfl-12~:\x7b~type~:~object~,~properties~:\x7b~ordinal~:\x7b~type~:~integer~,~format~:~int32~\x7d,~stopPoint~:\x7b~$ref~:~#/components/schemas/Tfl-11~\x7d\x7d\x7d,~Tfl-13~:\x7b~type~:~object~,~properties~:\x7b~id~:\x7b~type~:~string~,~description~:~The Id of the route~\x7d,~lineId~:\x7b~type~:~string~,~description~:~The Id of the Line~\x7d,~routeCode~:\x7b~type~:~string~,~description~:~The route code~\x7d,~name~:\x7b~type~:~string~,~description~:~Name such as \\~72\\~~\x7d,~lineString~:\x7b~type~:~string~,~description~:~The co-ordinates of the route's path as a geoJSON lineString~\x7d,~direction~:\x7b~type~:~string~,~description~:~Inbound or Outbound~\x7d,~originationName~:\x7b~type~:~string~,~description~:~The name of the Origin StopPoint~\x7d,~destinationName~:\x7b~type~:~string~,~description~:~The name of the Destination StopPoint~\x7d,~validTo~:\x7b~type~:~string~,~description~:~The DateTime that the Service containing this Route is valid until.~,~format~:~date-time~\x7d,~validFrom~:\x7b~type~:~string~,~description~:~The DateTime that the Service containing this Route is valid from.~,~format~:~date-time~\x7d,~routeSectionNaptanEntrySequence~:\x7b~type~:~array~,~items~:\x7b~$ref~:~#/components/schemas/Tfl-12~\x7d\x7d\x7d\x7d,~Tfl-14~:\x7b~type~:~object~,~properties~:\x7b~category~:\x7b~enum~:[~Undefined~,~RealTime~,~PlannedWork~,~Information~,~Event~,~Crowding~,~StatusAlert~],~type~:~string~,~description~:~Gets or sets the category of this dispruption.~\x7d,~type~:\x7b~type~:~string~,~description~:~Gets or sets the disruption type of this dispruption.~\x7d,~categoryDescription~:\x7b~type~:~string~,~description~:~Gets or sets the description of the category.~\x7d,~description~:\x7b~type~:~string~,~description~:~Gets or sets the description of this disruption.~\x7d,~summary~:\x7b~type~:~string~,~description~:~Gets or sets the summary of this disruption.~\x7d,~additionalInfo~:\x7b~type~:~string~,~description~:~Gets or sets the additionaInfo of this disruption.~\x7d,~created~:\x7b~type~:~string~,~description~:~Gets or sets the date/time when this disruption was created.~,~format~:~date-time~\x7d,~lastUpdate~:\x7b~type~:~string~,~description~:~Gets or sets the date/time when this disruption was last updated.~,~format~:~date-time~\x7d,~affectedRoutes~:\x7b~type~:~array~,~items~:\x7b~$ref~:~#/components/schemas/Tfl-13~\x7d,~description~:~Gets or sets the routes affected by this disruption~\x7d,~affectedStops~:\x7b~type~:~array~,~items~:\x7b~$ref~:~#/components/schemas/Tfl-11~\x7d,~description~:~Gets or sets the stops affected by this disruption~\x7d,~closureText~:\x7b~type~:~string~,~description~:~Text describing the closure type~\x7d\x7d,~description~:~Represents a disruption to a route within the transport network.~\x7d,~Tfl-15~:\x7b~type~:~object~,~properties~:\x7b~fromDate~:\x7b~type~:~string~,~description~:~Gets or sets the start date.~,~format~:~date-time~\x7d,~toDate~:\x7b~type~:~string~,~description~:~Gets or sets the end date.~,~format~:~date-time~\x7d,~isNow~:\x7b~type~:~boolean~,~description~:~If true is a realtime status rather than planned or info~\x7d\x7d,~description~:~Represents a period for which a planned works is valid.~\x7d,~Tfl-16~:\x7b~type~:~object~,~properties~:\x7b~id~:\x7b~type~:~integer~,~format~:~int32~\x7d,~lineId~:\x7b~type~:~string~\x7d,~statusSeverity~:\x7b~type~:~integer~,~format~:~int32~\x7d,~statusSeverityDescription~:\x7b~type~:~string~\x7d,~reason~:\x7b~type~:~string~\x7d,~created~:\x7b~type~:~string~,~format~:~date-time~\x7d,~modified~:\x7b~type~:~string~,~format~:~date-time~\x7d,~validityPeriods~:\x7b~type~:~array~,~items~:\x7b~$ref~:~#/components/schemas/Tfl-15~\x7d\x7d,~disruption~:\x7b~$ref~:~#/components/schemas/Tfl-14~\x7d\x7d\x7d,~Tfl-17~:\x7b~type~:~object~,~properties~:\x7b~routeCode~:\x7b~type~:~string~,~description~:~The route code~\x7d,~name~:\x7b~type~:~string~,~description~:~Name such as \\~72\\~~\x7d,~direction~:\x7b~type~:~string~,~description~:~Inbound or Outbound~\x7d,~originationName~:\x7b~type~:~string~,~description~:~The name of the Origin StopPoint~\x7d,~destinationName~:\x7b~type~:~string~,~description~:~The name of the Destination StopPoint~\x7d,~originator~:\x7b~type~:~string~,~description~:~The Id (NaPTAN code) of the Origin StopPoint~\x7d,~destination~:\x7b~type~:~string~,~description~:~The Id (NaPTAN code) or the Destination StopPoint~\x7d,~serviceType~:\x7b~type~:~string~,~description~:~Regular or Night~\x7d,~validTo~:\x7b~type~:~string~,~description~:~The DateTime that the Service containing this Route is valid until.~,~format~:~date-time~\x7d,~validFrom~:\x7b~type~:~string~,~description~:~The DateTime that the Service containing this Route is valid from.~,~format~:~date-time~\x7d\x7d,~description~:~Description of a Route used in Route search results.~\x7d,~Tfl-18~:\x7b~type~:~object~,~properties~:\x7b~name~:\x7b~type~:~string~\x7d,~uri~:\x7b~type~:~string~\x7d\x7d\x7d,~Tfl-19~:\x7b~type~:~object~,~properties~:\x7b~id~:\x7b~type~:~string~\x7d,~name~:\x7b~type~:~string~\x7d,~modeName~:\x7b~type~:~string~\x7d,~disruptions~:\x7b~type~:~array~,~items~:\x7b~$ref~:~#/components/schemas/Tfl-14~\x7d\x7d,~created~:\x7b~type~:~string~,~format~:~date-time~\x7d,~modified~:\x7b~type~:~string~,~format~:~date-time~\x7d,~lineStatuses~:\x7b~type~:~array~,~items~:\x7b~$ref~:~#/components/schemas/Tfl-16~\x7d\x7d,~routeSections~:\x7b~type~:~array~,~items~:\x7b~$ref~:~#/components/schemas/Tfl-17~\x7d\x7d,~serviceTypes~:\x7b~type~:~array~,~items~:\x7b~$ref~:~#/components/schemas/Tfl-18~\x7d\x7d,~crowding~:\x7b~$ref~:~#/components/schemas/Tfl-5~\x7d\x7d\x7d,~Tfl-20~:\x7b~type~:~object~,~properties~:\x7b~routeId~:\x7b~type~:~integer~,~format~:~int32~\x7d,~parentId~:\x7b~type~:~string~\x7d,~stationId~:\x7b~type~:~string~\x7d,~icsId~:\x7b~type~:~string~\x7d,~topMostParentId~:\x7b~type~:~string~\x7d,~direction~:\x7b~type~:~string~\x7d,~towards~:\x7b~type~:~string~\x7d,~modes~:\x7b~type~:~array~,~items~:\x7b~type~:~string~\x7d\x7d,~stopType~:\x7b~type~:~string~\x7d,~stopLetter~:\x7b~type~:~string~\x7d,~zone~:\x7b~type~:~string~\x7d,~accessibilitySummary~:\x7b~type~:~string~\x7d,~hasDisruption~:\x7b~type~:~boolean~\x7d,~lines~:\x7b~type~:~array~,~items~:\x7b~$ref~:~#/components/schemas/Tfl-6~\x7d\x7d,~status~:\x7b~type~:~boolean~\x7d,~id~:\x7b~type~:~string~\x7d,~url~:\x7b~type~:~string~\x7d,~name~:\x7b~type~:~string~\x7d,~lat~:\x7b~type~:~number~,~format~:~double~\x7d,~lon~:\x7b~type~:~number~,~format~:~double~\x7d\x7d\x7d,~Tfl-21~:\x7b~type~:~object~,~properties~:\x7b~lineId~:\x7b~type~:~string~\x7d,~lineName~:\x7b~type~:~string~\x7d,~direction~:\x7b~type~:~string~\x7d,~branchId~:\x7b~type~:~integer~,~description~:~The id of this branch.~,~format~:~int32~\x7d,~nextBranchIds~:\x7b~type~:~array~,~items~:\x7b~type~:~integer~,~format~:~int32~\x7d,~description~:~The ids of the next branch(es) in the sequence. Note that the next and previous branch id can be\\r\\n            identical in the case of a looped route e.g. the Circle line.~\x7d,~prevBranchIds~:\x7b~type~:~array~,~items~:\x7b~type~:~integer~,~format~:~int32~\x7d,~description~:~The ids of the previous branch(es) in the sequence. Note that the next and previous branch id can be\\r\\n            identical in the case of a looped route e.g. the Circle line.~\x7d,~stopPoint~:\x7b~type~:~array~,~items~:\x7b~$ref~:~#/components/schemas/Tfl-20~\x7d\x7d,~serviceType~:\x7b~enum~:[~Regular~,~Night~],~type~:~string~\x7d\x7d\x7d,~Tfl-22~:\x7b~type~:~object~,~properties~:\x7b~name~:\x7b~type~:~string~\x7d,~naptanIds~:\x7b~type~:~array~,~items~:\x7b~type~:~string~\x7d\x7d,~serviceType~:\x7b~type~:~string~\x7d\x7d\x7d,~Tfl-23~:\x7b~type~:~object~,~properties~:\x7b~lineId~:\x7b~type~:~string~\x7d,~lineName~:\x7b~type~:~string~\x7d,~direction~:\x7b~type~:~string~\x7d,~isOutboundOnly~:\x7b~type~:~boolean~\x7d,~mode~:\x7b~type~:~string~\x7d,~lineStrings~:\x7b~type~:~array~,~items~:\x7b~type~:~string~\x7d\x7d,~stations~:\x7b~type~:~array~,~items~:\x7b~$ref~:~#/components/schemas/Tfl-20~\x7d\x7d,~stopPointSequences~:\x7b~type~:~array~,~items~:\x7b~$ref~:~#/components/schemas/Tfl-21~\x7d\x7d,~orderedLineRoutes~:\x7b~type~:~array~,~items~:\x7b~$ref~:~#/components/schemas/Tfl-22~\x7d\x7d\x7d\x7d,~Tfl-24~:\x7b~type~:~object~,~properties~:\x7b~routeId~:\x7b~type~:~integer~,~format~:~int32~\x7d,~direction~:\x7b~type~:~string~\x7d,~destination~:\x7b~type~:~string~\x7d,~fromStation~:\x7b~type~:~string~\x7d,~toStation~:\x7b~type~:~string~\x7d,~serviceType~:\x7b~type~:~string~\x7d,~vehicleDestinationText~:\x7b~type~:~string~\x7d\x7d\x7d,~Tfl-25~:\x7b~type~:~object~,~properties~:\x7b~id~:\x7b~type~:~integer~,~format~:~int32~\x7d\x7d\x7d,~Tfl-26~:\x7b~type~:~object~,~properties~:\x7b~lineId~:\x7b~type~:~string~\x7d,~mode~:\x7b~type~:~string~\x7d,~lineName~:\x7b~type~:~string~\x7d,~lineRouteSection~:\x7b~type~:~array~,~items~:\x7b~$ref~:~#/components/schemas/Tfl-24~\x7d\x7d,~matchedRouteSections~:\x7b~type~:~array~,~items~:\x7b~$ref~:~#/components/schemas/Tfl-25~\x7d\x7d,~matchedStops~:\x7b~type~:~array~,~items~:\x7b~$ref~:~#/components/schemas/Tfl-20~\x7d\x7d,~id~:\x7b~type~:~string~\x7d,~url~:\x7b~type~:~string~\x7d,~name~:\x7b~type~:~string~\x7d,~lat~:\x7b~type~:~number~,~format~:~double~\x7d,~lon~:\x7b~type~:~number~,~format~:~double~\x7d\x7d\x7d,~Tfl-27~:\x7b~type~:~object~,~properties~:\x7b~input~:\x7b~type~:~string~\x7d,~searchMatches~:\x7b~type~:~array~,~items~:\x7b~$ref~:~#/components/schemas/Tfl-26~\x7d\x7d\x7d\x7d,~Tfl-28~:\x7b~type~:~object~,~properties~:\x7b~stopId~:\x7b~type~:~string~\x7d,~timeToArrival~:\x7b~type~:~number~,~format~:~double~\x7d\x7d\x7d,~Tfl-29~:\x7b~type~:~object~,~properties~:\x7b~id~:\x7b~type~:~string~\x7d,~intervals~:\x7b~type~:~array~,~items~:\x7b~$ref~:~#/components/schemas/Tfl-28~\x7d\x7d\x7d\x7d,~Tfl-30~:\x7b~type~:~object~,~properties~:\x7b~hour~:\x7b~type~:~string~\x7d,~minute~:\x7b~type~:~string~\x7d,~intervalId~:\x7b~type~:~integer~,~format~:~int32~\x7d\x7d\x7d,~Tfl-31~:\x7b~type~:~object~,~properties~:\x7b~hour~:\x7b~type~:~string~\x7d,~minute~:\x7b~type~:~string~\x7d\x7d\x7d,~Tfl-32~:\x7b~type~:~object~,~properties~:\x7b~lowestFrequency~:\x7b~type~:~number~,~format~:~double~\x7d,~highestFrequency~:\x7b~type~:~number~,~format~:~double~\x7d\x7d\x7d,~Tfl-33~:\x7b~type~:~object~,~properties~:\x7b~type~:\x7b~enum~:[~Normal~,~FrequencyHours~,~FrequencyMinutes~,~Unknown~],~type~:~string~\x7d,~fromTime~:\x7b~$ref~:~#/components/schemas/Tfl-31~\x7d,~toTime~:\x7b~$ref~:~#/components/schemas/Tfl-31~\x7d,~frequency~:\x7b~$ref~:~#/components/schemas/Tfl-32~\x7d\x7d\x7d,~Tfl-34~:\x7b~type~:~object~,~properties~:\x7b~name~:\x7b~type~:~string~\x7d,~knownJourneys~:\x7b~type~:~array~,~items~:\x7b~$ref~:~#/components/schemas/Tfl-30~\x7d\x7d,~firstJourney~:\x7b~$ref~:~#/components/schemas/Tfl-30~\x7d,~lastJourney~:\x7b~$ref~:~#/components/schemas/Tfl-30~\x7d,~periods~:\x7b~type~:~array~,~items~:\x7b~$ref~:~#/components/schemas/Tfl-33~\x7d\x7d\x7d\x7d,~Tfl-35~:\x7b~type~:~object~,~properties~:\x7b~stationIntervals~:\x7b~type~:~array~,~items~:\x7b~$ref~:~#/components/schemas/Tfl-29~\x7d\x7d,~schedules~:\x7b~type~:~array~,~items~:\x7b~$ref~:~#/components/schemas/Tfl-34~\x7d\x7d\x7d\x7d,~Tfl-36~:\x7b~type~:~object~,~properties~:\x7b~departureStopId~:\x7b~type~:~string~\x7d,~routes~:\x7b~type~:~array~,~items~:\x7b~$ref~:~#/components/schemas/Tfl-35~\x7d\x7d\x7d\x7d,~Tfl-37~:\x7b~type~:~object~,~properties~:\x7b~description~:\x7b~type~:~string~\x7d,~uri~:\x7b~type~:~string~\x7d\x7d\x7d,~Tfl-38~:\x7b~type~:~object~,~properties~:\x7b~disambiguationOptions~:\x7b~type~:~array~,~items~:\x7b~$ref~:~#/components/schemas/Tfl-37~\x7d\x7d\x7d\x7d,~Tfl-39~:\x7b~type~:~object~,~properties~:\x7b~lineId~:\x7b~type~:~string~\x7d,~lineName~:\x7b~type~:~string~\x7d,~direction~:\x7b~type~:~string~\x7d,~pdfUrl~:\x7b~type~:~string~\x7d,~stations~:\x7b~type~:~array~,~items~:\x7b~$ref~:~#/components/schemas/Tfl-20~\x7d\x7d,~stops~:\x7b~type~:~array~,~items~:\x7b~$ref~:~#/components/schemas/Tfl-20~\x7d\x7d,~timetable~:\x7b~$ref~:~#/components/schemas/Tfl-36~\x7d,~disambiguation~:\x7b~$ref~:~#/components/schemas/Tfl-38~\x7d,~statusErrorMessage~:\x7b~type~:~string~\x7d\x7d\x7d,~Tfl-40~:\x7b~type~:~object~,~properties~:\x7b~countdownServerAdjustment~:\x7b~type~:~string~\x7d,~source~:\x7b~type~:~string~,~format~:~date-time~\x7d,~insert~:\x7b~type~:~string~,~format~:~date-time~\x7d,~read~:\x7b~type~:~string~,~format~:~date-time~\x7d,~sent~:\x7b~type~:~string~,~format~:~date-time~\x7d,~received~:\x7b~type~:~string~,~format~:~date-time~\x7d\x7d\x7d,~Tfl-41~:\x7b~type~:~object~,~properties~:\x7b~id~:\x7b~type~:~string~,~description~:~The identitier for the prediction~\x7d,~operationType~:\x7b~type~:~integer~,~description~:~The type of the operation (1: is new or has been updated, 2: should be deleted from any client cache)~,~format~:~int32~\x7d,~vehicleId~:\x7b~type~:~string~,~description~:~The actual vehicle in transit (for train modes, the leading car of the rolling set)~\x7d,~naptanId~:\x7b~type~:~string~,~description~:~Identifier for the prediction~\x7d,~stationName~:\x7b~type~:~string~,~description~:~Station name~\x7d,~lineId~:\x7b~type~:~string~,~description~:~Unique identifier for the Line~\x7d,~lineName~:\x7b~type~:~string~,~description~:~Line Name~\x7d,~platformName~:\x7b~type~:~string~,~description~:~Platform name (for bus, this is the stop letter)~\x7d,~direction~:\x7b~type~:~string~,~description~:~Direction (unified to inbound/outbound)~\x7d,~bearing~:\x7b~type~:~string~,~description~:~Bearing (between 0 to 359)~\x7d,~destinationNaptanId~:\x7b~type~:~string~,~description~:~Naptan Identifier for the prediction's destination~\x7d,~destinationName~:\x7b~type~:~string~,~description~:~Name of the destination~\x7d,~timestamp~:\x7b~type~:~string~,~description~:~Timestamp for when the prediction was inserted/modified (source column drives what objects are broadcast on each iteration)~,~format~:~date-time~\x7d,~timeToStation~:\x7b~type~:~integer~,~description~:~Prediction of the Time to station in seconds~,~format~:~int32~\x7d,~currentLocation~:\x7b~type~:~string~,~description~:~The current location of the vehicle.~\x7d,~towards~:\x7b~type~:~string~,~description~:~Routing information or other descriptive text about the path of the vehicle towards the destination~\x7d,~expectedArrival~:\x7b~type~:~string~,~description~:~The expected arrival time of the vehicle at the stop/station~,~format~:~date-time~\x7d,~timeToLive~:\x7b~type~:~string~,~description~:~The expiry time for the prediction~,~format~:~date-time~\x7d,~modeName~:\x7b~type~:~string~,~description~:~The mode name of the station/line the prediction relates to~\x7d,~timing~:\x7b~$ref~:~#/components/schemas/Tfl-40~\x7d\x7d,~description~:~DTO to capture the prediction details~\x7d,~MetaModesGet200ApplicationJsonResponse~:\x7b~type~:~array~,~items~:\x7b~$ref~:~#/components/schemas/Tfl~\x7d\x7d,~MetaModesGet200TextJsonResponse~:\x7b~type~:~array~,~items~:\x7b~$ref~:~#/components/schemas/Tfl~\x7d\x7d,~MetaModesGet200ApplicationXmlResponse~:\x7b~type~:~array~,~items~:\x7b~$ref~:~#/components/schemas/Tfl~\x7d\x7d,~MetaModesGet200TextXmlResponse~:\x7b~type~:~array~,~items~:\x7b~$ref~:~#/components/schemas/Tfl~\x7d\x7d,~Get200ApplicationJsonResponse~:\x7b~type~:~object~\x7d,~MetaSeverityGet200ApplicationJsonResponse~:\x7b~type~:~array~,~items~:\x7b~$ref~:~#/components/schemas/Tfl-2~\x7d\x7d,~MetaSeverityGet200TextJsonResponse~:\x7b~type~:~array~,~items~:\x7b~$ref~:~#/components/schemas/Tfl-2~\x7d\x7d,~MetaSeverityGet200ApplicationXmlResponse~:\x7b~type~:~array~,~items~:\x7b~$ref~:~#/components/schemas/Tfl-2~\x7d\x7d,~MetaSeverityGet200TextXmlResponse~:\x7b~type~:~array~,~items~:\x7b~$ref~:~#/components/schemas/Tfl-2~\x7d\x7d,~MetaDisruptionCategoriesGet200ApplicationJsonResponse~:\x7b~type~:~array~,~items~:\x7b~type~:~string~\x7d\x7d,~MetaDisruptionCategoriesGet200TextJsonResponse~:\x7b~type~:~array~,~items~:\x7b~type~:~string~\x7d\x7d,~MetaDisruptionCategoriesGet200ApplicationXmlResponse~:\x7b~type~:~array~,~items~:\x7b~type~:~string~\x7d\x7d,~MetaDisruptionCategoriesGet200TextXmlResponse~:\x7b~type~:~array~,~items~:\x7b~type~:~string~\x7d\x7d,~MetaServiceTypesGet200ApplicationJsonResponse~:\x7b~type~:~array~,~items~:\x7b~type~:~string~\x7d\x7d,~MetaServiceTypesGet200TextJsonResponse~:\x7b~type~:~array~,~items~:\x7b~type~:~string~\x7d\x7d,~MetaServiceTypesGet200ApplicationXmlResponse~:\x7b~type~:~array~,~items~:\x7b~type~:~string~\x7d\x7d,~MetaServiceTypesGet200TextXmlResponse~:\x7b~type~:~array~,~items~:\x7b~type~:~string~\x7d\x7d,~ids-Get200ApplicationJsonResponse~:\x7b~type~:~array~,~items~:\x7b~$ref~:~#/components/schemas/Tfl-19~\x7d\x7d,~ids-Get200TextJsonResponse~:\x7b~type~:~array~,~items~:\x7b~$ref~:~#/components/schemas/Tfl-19~\x7d\x7d,~ids-Get200ApplicationXmlResponse~:\x7b~type~:~array~,~items~:\x7b~$ref~:~#/components/schemas/Tfl-19~\x7d\x7d,~ids-Get200TextXmlResponse~:\x7b~type~:~array~,~items~:\x7b~$ref~:~#/components/schemas/Tfl-19~\x7d\x7d,~Mode-modes-Get200ApplicationJsonResponse~:\x7b~type~:~array~,~items~:\x7b~$ref~:~#/components/schemas/Tfl-19~\x7d\x7d,~Mode-modes-Get200TextJsonResponse~:\x7b~type~:~array~,~items~:\x7b~$ref~:~#/components/schemas/Tfl-19~\x7d\x7d,~Mode-modes-Get200ApplicationXmlResponse~:\x7b~type~:~array~,~items~:\x7b~$ref~:~#/components/schemas/Tfl-19~\x7d\x7d,~Mode-modes-Get200TextXmlResponse~:\x7b~type~:~array~,~items~:\x7b~$ref~:~#/components/schemas/Tfl-19~\x7d\x7d,~RouteGet200ApplicationJsonResponse~:\x7b~type~:~array~,~items~:\x7b~$ref~:~#/components/schemas/Tfl-19~\x7d\x7d,~RouteGet200TextJsonResponse~:\x7b~type~:~array~,~items~:\x7b~$ref~:~#/components/schemas/Tfl-19~\x7d\x7d,~RouteGet200ApplicationXmlResponse~:\x7b~type~:~array~,~items~:\x7b~$ref~:~#/components/schemas/Tfl-19~\x7d\x7d,~RouteGet200TextXmlResponse~:\x7b~type~:~array~,~items~:\x7b~$ref~:~#/components/schemas/Tfl-19~\x7d\x7d,~ids-RouteGet200ApplicationJsonResponse~:\x7b~type~:~array~,~items~:\x7b~$ref~:~#/components/schemas/Tfl-19~\x7d\x7d,~ids-RouteGet200TextJsonResponse~:\x7b~type~:~array~,~items~:\x7b~$ref~:~#/components/schemas/Tfl-19~\x7d\x7d,~ids-RouteGet200ApplicationXmlResponse~:\x7b~type~:~array~,~items~:\x7b~$ref~:~#/components/schemas/Tfl-19~\x7d\x7d,~ids-RouteGet200TextXmlResponse~:\x7b~type~:~array~,~items~:\x7b~$ref~:~#/components/schemas/Tfl-19~\x7d\x7d,~Mode-modes-RouteGet200ApplicationJsonResponse~:\x7b~type~:~array~,~items~:\x7b~$ref~:~#/components/schemas/Tfl-19~\x7d\x7d,~Mode-modes-RouteGet200TextJsonResponse~:\x7b~type~:~array~,~items~:\x7b~$ref~:~#/components/schemas/Tfl-19~\x7d\x7d,~Mode-modes-RouteGet200ApplicationXmlResponse~:\x7b~type~:~array~,~items~:\x7b~$ref~:~#/components/schemas/Tfl-19~\x7d\x7d,~Mode-modes-RouteGet200TextXmlResponse~:\x7b~type~:~array~,~items~:\x7b~$ref~:~#/components/schemas/Tfl-19~\x7d\x7d,~ids-Status-startDate-To-endDate-Get200ApplicationJsonResponse~:\x7b~type~:~array~,~items~:\x7b~$ref~:~#/components/schemas/Tfl-19~\x7d\x7d,~ids-Status-startDate-To-endDate-Get200TextJsonResponse~:\x7b~type~:~array~,~items~:\x7b~$ref~:~#/components/schemas/Tfl-19~\x7d\x7d,~ids-Status-startDate-To-endDate-Get200ApplicationXmlResponse~:\x7b~type~:~array~,~items~:\x7b~$ref~:~#/components/schemas/Tfl-19~\x7d\x7d,~ids-Status-startDate-To-endDate-Get200TextXmlResponse~:\x7b~type~:~array~,~items~:\x7b~$ref~:~#/components/schemas/Tfl-19~\x7d\x7d,~ids-StatusGet200ApplicationJsonResponse~:\x7b~type~:~array~,~items~:\x7b~$ref~:~#/components/schemas/Tfl-19~\x7d\x7d,~ids-StatusGet200TextJsonResponse~:\x7b~type~:~array~,~items~:\x7b~$ref~:~#/components/schemas/Tfl-19~\x7d\x7d,~ids-StatusGet200ApplicationXmlResponse~:\x7b~type~:~array~,~items~:\x7b~$ref~:~#/components/schemas/Tfl-19~\x7d\x7d,~ids-StatusGet200TextXmlResponse~:\x7b~type~:~array~,~items~:\x7b~$ref~:~#/components/schemas/Tfl-19~\x7d\x7d,~Status-severity-Get200ApplicationJsonResponse~:\x7b~type~:~array~,~items~:\x7b~$ref~:~#/components/schemas/Tfl-19~\x7d\x7d,~Status-severity-Get200TextJsonResponse~:\x7b~type~:~array~,~items~:\x7b~$ref~:~#/components/schemas/Tfl-19~\x7d\x7d,~Status-severity-Get200ApplicationXmlResponse~:\x7b~type~:~array~,~items~:\x7b~$ref~:~#/components/schemas/Tfl-19~\x7d\x7d,~Status-severity-Get200TextXmlResponse~:\x7b~type~:~array~,~items~:\x7b~$ref~:~#/components/schemas/Tfl-19~\x7d\x7d,~Mode-modes-StatusGet200ApplicationJsonResponse~:\x7b~type~:~array~,~items~:\x7b~$ref~:~#/components/schemas/Tfl-19~\x7d\x7d,~Mode-modes-StatusGet200TextJsonResponse~:\x7b~type~:~array~,~items~:\x7b~$ref~:~#/components/schemas/Tfl-19~\x7d\x7d,~Mode-modes-StatusGet200ApplicationXmlResponse~:\x7b~type~:~array~,~items~:\x7b~$ref~:~#/components/schemas/Tfl-19~\x7d\x7d,~Mode-modes-StatusGet200TextXmlResponse~:\x7b~type~:~array~,~items~:\x7b~$ref~:~#/components/schemas/Tfl-19~\x7d\x7d,~id-StopPointsGet200ApplicationJsonResponse~:\x7b~type~:~array~,~items~:\x7b~$ref~:~#/components/schemas/Tfl-11~\x7d\x7d,~id-StopPointsGet200TextJsonResponse~:\x7b~type~:~array~,~items~:\x7b~$ref~:~#/components/schemas/Tfl-11~\x7d\x7d,~id-StopPointsGet200ApplicationXmlResponse~:\x7b~type~:~array~,~items~:\x7b~$ref~:~#/components/schemas/Tfl-11~\x7d\x7d,~id-StopPointsGet200TextXmlResponse~:\x7b~type~:~array~,~items~:\x7b~$ref~:~#/components/schemas/Tfl-11~\x7d\x7d,~ids-DisruptionGet200ApplicationJsonResponse~:\x7b~type~:~array~,~items~:\x7b~$ref~:~#/components/schemas/Tfl-14~\x7d\x7d,~ids-DisruptionGet200TextJsonResponse~:\x7b~type~:~array~,~items~:\x7b~$ref~:~#/components/schemas/Tfl-14~\x7d\x7d,~ids-DisruptionGet200ApplicationXmlResponse~:\x7b~type~:~array~,~items~:\x7b~$ref~:~#/components/schemas/Tfl-14~\x7d\x7d,~ids-DisruptionGet200TextXmlResponse~:\x7b~type~:~array~,~items~:\x7b~$ref~:~#/components/schemas/Tfl-14~\x7d\x7d,~Mode-modes-DisruptionGet200ApplicationJsonResponse~:\x7b~type~:~array~,~items~:\x7b~$ref~:~#/components/schemas/Tfl-14~\x7d\x7d,~Mode-modes-DisruptionGet200TextJsonResponse~:\x7b~type~:~array~,~items~:\x7b~$ref~:~#/components/schemas/Tfl-14~\x7d\x7d,~Mode-modes-DisruptionGet200ApplicationXmlResponse~:\x7b~type~:~array~,~items~:\x7b~$ref~:~#/components/schemas/Tfl-14~\x7d\x7d,~Mode-modes-DisruptionGet200TextXmlResponse~:\x7b~type~:~array~,~items~:\x7b~$ref~:~#/components/schemas/Tfl-14~\x7d\x7d,~ids-Arrivals-stopPointId-Get200ApplicationJsonResponse~:\x7b~type~:~array~,~items~:\x7b~$ref~:~#/components/schemas/Tfl-41~\x7d\x7d,~ids-Arrivals-stopPointId-Get200TextJsonResponse~:\x7b~type~:~array~,~items~:\x7b~$ref~:~#/components/schemas/Tfl-41~\x7d\x7d,~ids-Arrivals-stopPointId-Get200ApplicationXmlResponse~:\x7b~type~:~array~,~items~:\x7b~$ref~:~#/components/schemas/Tfl-41~\x7d\x7d,~ids-Arrivals-stopPointId-Get200TextXmlResponse~:\x7b~type~:~array~,~items~:\x7b~$ref~:~#/components/schemas/Tfl-41~\x7d\x7d,~ids-ArrivalsGet200ApplicationJsonResponse~:\x7b~type~:~array~,~items~:\x7b~$ref~:~#/components/schemas/Tfl-41~\x7d\x7d,~ids-ArrivalsGet200TextJsonResponse~:\x7b~type~:~array~,~items~:\x7b~$ref~:~#/components/schemas/Tfl-41~\x7d\x7d,~ids-ArrivalsGet200ApplicationXmlResponse~:\x7b~type~:~array~,~items~:\x7b~$ref~:~#/components/schemas/Tfl-41~\x7d\x7d,~ids-ArrivalsGet200TextXmlResponse~:\x7b~type~:~array~,~items~:\x7b~$ref~:~#/components/schemas/Tfl-41~\x7d\x7d\x7d,~securitySchemes~:\x7b~apiKeyHeader~:\x7b~type~:~apiKey~,~name~:~app_key~,~in~:~header~\x7d,~apiKeyQuery~:\x7b~type~:~apiKey~,~name~:~app_key~,~in~:~query~\x7d\x7d\x7d,~security~:[\x7b~apiKeyHeader~:[]\x7d,\x7b~apiKeyQuery~:[]\x7d]\x7d"),
  ("Mode",
   "\x7b~openapi~:~3.0.1~,~info~:\x7b~title~:~Mode~,~description~:~APIs relating to Mode and similar services~,~version~:~1.0~\x7d,~servers~:[\x7b~url~:~https://api.tfl.gov.uk/Mode~\x7d],~paths~:\x7b~/ActiveServiceTypes~:\x7b~get~:\x7b~tags~:[~Mode~],~summary~:~Returns the service type active for a mode.\\r\\n            Currently only supports tube~,~description~:~Returns the service type active for a mode.\\r\\n            Currently only supports tube~,~operationId~:~Mode_GetActiveServiceTypes~,~responses~:\x7b~200~:\x7b~description~:~OK~,~content~:\x7b~application/json~:\x7b~schema~:\x7b~$ref~:~#/components/schemas/Tfl-Api-Presentation-Entities-ActiveServiceTypeArray~\x7d,~example~:[\x7b~mode~:~string~,~serviceType~:~string~\x7d]\x7d,~text/json~:\x7b~schema~:\x7b~$ref~:~#/components/schemas/Tfl-Api-Presentation-Entities-ActiveServiceTypeArray-1~\x7d,~example~:[\x7b~mode~:~string~,~serviceType~:~string~\x7d]\x7d,~application/xml~:\x7b~schema~:\x7b~$ref~:~#/components/schemas/Tfl-Api-Presentation-Entities-ActiveServiceTypeArray-2~\x7d,~example~:~<Tfl-Api-Presentation-Entities-ActiveServiceTypeArray-2> <mode>string</mode> <serviceType>string</serviceType> </Tfl-Api-Presentation-Entities-ActiveServiceTypeArray-2>~\x7d,~text/xml~:\x7b~schema~:\x7b~$ref~:~#/components/schemas/Tfl-Api-Presentation-Entities-ActiveServiceTypeArray-3~\x7d,~example~:~<Tfl-Api-Presentation-Entities-ActiveServiceTypeArray-3> <mode>string</mode> <serviceType>string</serviceType> </Tfl-Api-Presentation-Entities-ActiveServiceTypeArray-3>~\x7d\x7d\x7d\x7d\x7d\x7d,~/\x7bmode\x7d/Arrivals~:\x7b~get~:\x7b~tags~:[~Mode~],~summary~:~Gets the next arrival predictions for all stops of a given mode~,~description~:~Gets the next arrival predictions for all stops of a given mode~,~operationId~:~Mode_Arrivals~,~parameters~:[\x7b~name~:~mode~,~in~:~path~,~description~:~A mode name e.g. tube, dlr~,~required~:true,~schema~:\x7b~type~:~string~\x7d,~example~:~Tube~\x7d,\x7b~name~:~count~,~in~:~query~,~description~:~Format - int32. A number of arrivals to return for each stop, -1 to return all available.~,~schema~:\x7b~type~:~integer~\x7d\x7d],~responses~:\x7b~200~:\x7b~description~:~OK~,~content~:\x7b~application/json~:\x7b~schema~:\x7b~$ref~:~#/components/schemas/Tfl-Api-Presentation-Entities-PredictionArray-4~\x7d,~example~:[\x7b~id~:~string~,~operationType~:0,~vehicleId~:~string~,~naptanId~:~string~,~stationName~:~string~,~lineId~:~string~,~lineName~:~string~,~platformName~:~string~,~direction~:~string~,~bearing~:~string~,~destinationNaptanId~:~string~,~destinationName~:~string~,~timestamp~:~string~,~timeToStation~:0,~currentLocation~:~string~,~towards~:~string~,~expectedArrival~:~string~,~timeToLive~:~string~,~modeName~:~string~,~timing~:\x7b~countdownServerAdjustment~:~string~,~source~:~string~,~insert~:~string~,~read~:~string~,~sent~:~string~,~received~:~string~\x7d\x7d]\x7d,~text/json~:\x7b~schema~:\x7b~$ref~:~#/components/schemas/Tfl-Api-Presentation-Entities-PredictionArray-5~\x7d,~example~:[\x7b~id~:~string~,~operationType~:0,~vehicleId~:~string~,~naptanId~:~string~,~stationName~:~string~,~lineId~:~string~,~lineName~:~string~,~platformName~:~string~,~direction~:~string~,~bearing~:~string~,~destinationNaptanId~:~string~,~destinationName~:~string~,~timestamp~:~string~,~timeToStation~:0,~currentLocation~:~string~,~towards~:~string~,~expectedArrival~:~string~,~timeToLive~:~string~,~modeName~:~string~,~timing~:\x7b~countdownServerAdjustment~:~string~,~source~:~string~,~insert~:~string~,~read~:~string~,~sent~:~string~,~received~:~string~\x7d\x7d]\x7d,~application/xml~:\x7b~schema~:\x7b~$ref~:~#/components/schemas/Tfl-Api-Presentation-Entities-PredictionArray-6~\x7d,~example~:~<Tfl-Api-Presentation-Entities-PredictionArray-6> <id>string</id> <operationType>0</operationType> <vehicleId>string</vehicleId> <naptanId>string</naptanId> <stationName>string</stationName> <lineId>string</lineId> <lineName>string</lineName> <platformName>string</platformName> <direction>string</direction> <bearing>string</bearing> <destinationNaptanId>string</destinationNaptanId> <destinationName>string</destinationName> <timestamp>string</timestamp> <timeToStation>0</timeToStation> <currentLocation>string</currentLocation> <towards>string</towards> <expectedArrival>string</expectedArrival> <timeToLive>string</timeToLive> <modeName>string</modeName> <timing> <countdownServerAdjustment>string</countdownServerAdjustment> <source>string</source> <insert>string</insert> <read>string</read> <sent>string</sent> <received>string</received> </timing> </Tfl-Api-Presentation-Entities-PredictionArray-6>~\x7d,~text/xml~:\x7b~schema~:\x7b~$ref~:~#/components/schemas/Tfl-Api-Presentation-Entities-PredictionArray-7~\x7d,~example~:~<Tfl-Api-Presentation-Entities-PredictionArray-7> <id>string</id> <operationType>0</operationType> <vehicleId>string</vehicleId> <naptanId>string</naptanId> <stationName>string</stationName> <lineId>string</lineId> <lineName>string</lineName> <platformName>string</platformName> <direction>string</direction> <bearing>string</bearing> <destinationNaptanId>string</destinationNaptanId> <destinationName>string</destinationName> <timestamp>string</timestamp> <timeToStation>0</timeToStation> <currentLocation>string</currentLocation> <towards>string</towards> <expectedArrival>string</expectedArrival> <timeToLive>string</timeToLive> <modeName>string</modeName> <timing> <countdownServerAdjustment>string</countdownServerAdjustment> <source>string</source> <insert>string</insert> <read>string</read> <sent>string</sent> <received>string</received> </timing> </Tfl-Api-Presentation-Entities-PredictionArray-7>~\x7d\x7d\x7d\x7d\x7d\x7d\x7d,~components~:\x7b~schemas~:\x7b~Tfl-Api-Presentation-Entities-ActiveServiceTypeArray~:\x7b~type~:~array~,~items~:\x7b~$ref~:~#/components/schemas/Tfl.Api.Presentation.Entities.ActiveServiceType~\x7d\x7d,~Tfl.Api.Presentation.Entities.ActiveServiceType~:\x7b~type~:~object~,~properties~:\x7b~mode~:\x7b~type~:~string~\x7d,~serviceType~:\x7b~type~:~string~\x7d\x7d\x7d,~Tfl-Api-Presentation-Entities-ActiveServiceTypeArray-1~:\x7b~type~:~array~,~items~:\x7b~$ref~:~#/components/schemas/Tfl.Api.Presentation.Entities.ActiveServiceType~\x7d\x7d,~Tfl-Api-Presentation-Entities-ActiveServiceTypeArray-2~:\x7b~type~:~array~,~items~:\x7b~$ref~:~#/components/schemas/Tfl.Api.Presentation.Entities.ActiveServiceType~\x7d\x7d,~Tfl-Api-Presentation-Entities-ActiveServiceTypeArray-3~:\x7b~type~:~array~,~items~:\x7b~$ref~:~#/components/schemas/Tfl.Api.Presentation.Entities.ActiveServiceType~\x7d\x7d,~Tfl-Api-Presentation-Entities-PredictionArray-4~:\x7b~type~:~array~,~items~:\x7b~$ref~:~#/components/schemas/Tfl.Api.Presentation.Entities.Prediction~\x7d\x7d,~Tfl.Api.Presentation.Entities.Prediction~:\x7b~type~:~object~,~properties~:\x7b~id~:\x7b~type~:~string~,~description~:~The identitier for the prediction~\x7d,~operationType~:\x7b~type~:~integer~,~description~:~The type of the operation (1: is new or has been updated, 2: should be deleted from any client cache)~,~format~:~int32~\x7d,~vehicleId~:\x7b~type~:~string~,~description~:~The actual vehicle in transit (for train modes, the leading car of the rolling set)~\x7d,~naptanId~:\x7b~type~:~string~,~description~:~Identifier for the prediction~\x7d,~stationName~:\x7b~type~:~string~,~description~:~Station name~\x7d,~lineId~:\x7b~type~:~string~,~description~:~Unique identifier for the Line~\x7d,~lineName~:\x7b~type~:~string~,~description~:~Line Name~\x7d,~platformName~:\x7b~type~:~string~,~description~:~Platform name (for bus, this is the stop letter)~\x7d,~direction~:\x7b~type~:~string~,~description~:~Direction (unified to inbound/outbound)~\x7d,~bearing~:\x7b~type~:~string~,~description~:~Bearing (between 0 to 359)~\x7d,~destinationNaptanId~:\x7b~type~:~string~,~description~:~Naptan Identifier for the prediction's destination~\x7d,~destinationName~:\x7b~type~:~string~,~description~:~Name of the destination~\x7d,~timestamp~:\x7b~type~:~string~,~description~:~Timestamp for when the prediction was inserted/modified (source column drives what objects are broadcast on each iteration)~,~format~:~date-time~\x7d,~timeToStation~:\x7b~type~:~integer~,~description~:~Prediction of the Time to station in seconds~,~format~:~int32~\x7d,~currentLocation~:\x7b~type~:~string~,~description~:~The current location of the vehicle.~\x7d,~towards~:\x7b~type~:~string~,~description~:~Routing information or other descriptive text about the path of the vehicle towards the destination~\x7d,~expectedArrival~:\x7b~type~:~string~,~description~:~The expected arrival time of the vehicle at the stop/station~,~format~:~date-time~\x7d,~timeToLive~:\x7b~type~:~string~,~description~:~The expiry time for the prediction~,~format~:~date-time~\x7d,~modeName~:\x7b~type~:~string~,~description~:~The mode name of the station/line the prediction relates to~\x7d,~timing~:\x7b~$ref~:~#/components/schemas/Tfl.Api.Presentation.Entities.PredictionTiming~\x7d\x7d,~description~:~DTO to capture the prediction details~\x7d,~Tfl.Api.Presentation.Entities.PredictionTiming~:\x7b~type~:~object~,~properties~:\x7b~countdownServerAdjustment~:\x7b~type~:~string~\x7d,~source~:\x7b~type~:~string~,~format~:~date-time~\x7d,~insert~:\x7b~type~:~string~,~format~:~date-time~\x7d,~read~:\x7b~type~:~string~,~format~:~date-time~\x7d,~sent~:\x7b~type~:~string~,~format~:~date-time~\x7d,~received~:\x7b~type~:~string~,~format~:~date-time~\x7d\x7d\x7d,~Tfl-Api-Presentation-Entities-PredictionArray-5~:\x7b~type~:~array~,~items~:\x7b~$ref~:~#/components/schemas/Tfl.Api.Presentation.Entities.Prediction~\x7d\x7d,~Tfl-Api-Presentation-Entities-PredictionArray-6~:\x7b~type~:~array~,~items~:\x7b~$ref~:~#/components/schemas/Tfl.Api.Presentation.Entities.Prediction~\x7d\x7d,~Tfl-Api-Presentation-Entities-PredictionArray-7~:\x7b~type~:~array~,~items~:\x7b~$ref~:~#/components/schemas/Tfl.Api.Presentation.Entities.Prediction~\x7d\x7d\x7d,~securitySchemes~:\x7b~apiKeyHeader~:\x7b~type~:~apiKey~,~name~:~app_key~,~in~:~header~\x7d,~apiKeyQuery~:\x7b~type~:~apiKey~,~name~:~app_key~,~in~:~query~\x7d\x7d\x7d,~security~:[\x7b~apiKeyHeader~:[]\x7d,\x7b~apiKeyQuery~:[]\x7d]\x7d"),
  ("Occupancy",
   "\x7b~openapi~:~3.0.1~,~info~:\x7b~title~:~Occupancy~,~description~:~API's relating to Occupancy and similar services~,~license~:\x7b~name~:~Transport Data Service~,~url~:~https://tfl.gov.uk/corporate/terms-and-conditions/transport-data-service~\x7d,~version~:~1.0~\x7d,~servers~:[\x7b~url~:~https://api.tfl.gov.uk/Occupancy~\x7d],~paths~:\x7b~/ChargeConnector~:\x7b~get~:\x7b~tags~:[~Occupancy~],~summary~:~Gets the occupancy for all charge connectors~,~description~:~Gets the occupancy for all charge connectors~,~operationId~:~Occupancy_GetAllChargeConnectorStatus~,~responses~:\x7b~200~:\x7b~description~:~OK~,~content~:\x7b~application/json~:\x7b~schema~:\x7b~type~:~array~,~items~:\x7b~$ref~:~#/components/schemas/Tfl.Api.Presentation.Entities.ChargeConnectorOccupancy~\x7d\x7d,~example~:[\x7b~id~:0,~sourceSystemPlaceId~:~string~,~status~:~string~\x7d]\x7d,~text/json~:\x7b~schema~:\x7b~type~:~array~,~items~:\x7b~$ref~:~#/components/schemas/Tfl.Api.Presentation.Entities.ChargeConnectorOccupancy~\x7d\x7d,~example~:[\x7b~id~:0,~sourceSystemPlaceId~:~string~,~status~:~string~\x7d]\x7d,~application/xml~:\x7b~schema~:\x7b~type~:~array~,~items~:\x7b~$ref~:~#/components/schemas/Tfl.Api.Presentation.Entities.ChargeConnectorOccupancy~\x7d\x7d,~example~:~<ChargeConnectorGet200ApplicationXmlResponse> <id>0</id> <sourceSystemPlaceId>string</sourceSystemPlaceId> <status>string</status> </ChargeConnectorGet200ApplicationXmlResponse>~\x7d,~text/xml~:\x7b~schema~:\x7b~type~:~array~,~items~:\x7b~$ref~:~#/components/schemas/Tfl.Api.Presentation.Entities.ChargeConnectorOccupancy~\x7d\x7d,~example~:~<ChargeConnectorGet200TextXmlResponse> <id>0</id> <sourceSystemPlaceId>string</sourceSystemPlaceId> <status>string</status> </ChargeConnectorGet200TextXmlResponse>~\x7d\x7d\x7d\x7d\x7d\x7d,~/ChargeConnector/\x7bids\x7d~:\x7b~get~:\x7b~tags~:[~Occupancy~],~summary~:~Gets the occupancy for a charge connectors with a given id (sourceSystemPlaceId)~,~description~:~Gets the occupancy for a charge connectors with a given id (sourceSystemPlaceId)~,~operationId~:~Occupancy_GetChargeConnectorStatusByPathIds~,~parameters~:[\x7b~name~:~ids~,~in~:~path~,~required~:true,~schema~:\x7b~type~:~string~\x7d,~example~:~ChargePointCM-24473-67148~\x7d],~responses~:\x7b~200~:\x7b~description~:~OK~,~content~:\x7b~application/json~:\x7b~schema~:\x7b~type~:~array~,~items~:\x7b~$ref~:~#/components/schemas/Tfl.Api.Presentation.Entities.ChargeConnectorOccupancy~\x7d\x7d,~example~:[\x7b~id~:0,~sourceSystemPlaceId~:~string~,~status~:~string~\x7d]\x7d,~text/json~:\x7b~schema~:\x7b~type~:~array~,~items~:\x7b~$ref~:~#/components/schemas/Tfl.Api.Presentation.Entities.ChargeConnectorOccupancy~\x7d\x7d,~example~:[\x7b~id~:0,~sourceSystemPlaceId~:~string~,~status~:~string~\x7d]\x7d,~application/xml~:\x7b~schema~:\x7b~type~:~array~,~items~:\x7b~$ref~:~#/components/schemas/Tfl.Api.Presentation.Entities.ChargeConnectorOccupancy~\x7d\x7d,~example~:~<ChargeConnector-ids-Get200ApplicationXmlResponse> <id>0</id> <sourceSystemPlaceId>string</sourceSystemPlaceId> <status>string</status> </ChargeConnector-ids-Get200ApplicationXmlResponse>~\x7d,~text/xml~:\x7b~schema~:\x7b~type~:~array~,~items~:\x7b~$ref~:~#/components/schemas/Tfl.Api.Presentation.Entities.ChargeConnectorOccupancy~\x7d\x7d,~example~:~<ChargeConnector-ids-Get200TextXmlResponse> <id>0</id> <sourceSystemPlaceId>string</sourceSystemPlaceId> <status>string</status> </ChargeConnector-ids-Get200TextXmlResponse>~\x7d\x7d\x7d\x7d\x7d\x7d,~/BikePoints/\x7bids\x7d~:\x7b~get~:\x7b~tags~:[~Occupancy~],~summary~:~Get the occupancy for bike points.~,~description~:~Get the occupancy for bike points.~,~operationId~:~Occupancy_GetBikePointsOccupanciesByPathIds~,~parameters~:[\x7b~name~:~ids~,~in~:~path~,~description~:~~,~required~:true,~schema~:\x7b~type~:~string~\x7d,~example~:~BikePoints_805~\x7d],~responses~:\x7b~200~:\x7b~description~:~OK~,~content~:\x7b~application/json~:\x7b~schema~:\x7b~type~:~array~,~items~:\x7b~$ref~:~#/components/schemas/Tfl.Api.Presentation.Entities.BikePointOccupancy~\x7d\x7d,~example~:[\x7b~id~:~string~,~name~:~string~,~bikesCount~:0,~emptyDocks~:0,~totalDocks~:0\x7d]\x7d,~text/json~:\x7b~schema~:\x7b~type~:~array~,~items~:\x7b~$ref~:~#/components/schemas/Tfl.Api.Presentation.Entities.BikePointOccupancy~\x7d\x7d,~example~:[\x7b~id~:~string~,~name~:~string~,~bikesCount~:0,~emptyDocks~:0,~totalDocks~:0\x7d]\x7d,~application/xml~:\x7b~schema~:\x7b~type~:~array~,~items~:\x7b~$ref~:~#/components/schemas/Tfl.Api.Presentation.Entities.BikePointOccupancy~\x7d\x7d,~example~:~<BikePoints-ids-Get200ApplicationXmlResponse> <id>string</id> <name>string</name> <bikesCount>0</bikesCount> <emptyDocks>0</emptyDocks> <totalDocks>0</totalDocks> </BikePoints-ids-Get200ApplicationXmlResponse>~\x7d,~text/xml~:\x7b~schema~:\x7b~type~:~array~,~items~:\x7b~$ref~:~#/components/schemas/Tfl.Api.Presentation.Entities.BikePointOccupancy~\x7d\x7d,~example~:~<BikePoints-ids-Get200TextXmlResponse> <id>string</id> <name>string</name> <bikesCount>0</bikesCount> <emptyDocks>0</emptyDocks> <totalDocks>0</totalDocks> </BikePoints-ids-Get200TextXmlResponse>~\x7d\x7d\x7d\x7d\x7d\x7d,~/*~:\x7b~get~:\x7b~tags~:[~StopPoint~],~summary~:~Forwards any remaining requests to the back-end~,~description~:~Forwards any remaining requests to the back-end~,~operationId~:~Forward_Proxy~,~responses~:\x7b~200~:\x7b~description~:~OK~,~content~:\x7b~application/json~:\x7b~schema~:\x7b~type~:~object~\x7d\x7d\x7d\x7d\x7d\x7d\x7d\x7d,~components~:\x7b~schemas~:\x7b~Tfl.Api.Presentation.Entities.Bay~:\x7b~type~:~object~,~properties~:\x7b~bayType~:\x7b~type~:~string~\x7d,~bayCount~:\x7b~type~:~integer~,~format~:~int32~\x7d,~free~:\x7b~type~:~integer~,~format~:~int32~\x7d,~occupied~:\x7b~type~:~integer~,~format~:~int32~\x7d\x7d\x7d,~Tfl.Api.Presentation.Entities.CarParkOccupancy~:\x7b~type~:~object~,~properties~:\x7b~id~:\x7b~type~:~string~\x7d,~bays~:\x7b~type~:~array~,~items~:\x7b~$ref~:~#/components/schemas/Tfl.Api.Presentation.Entities.Bay~\x7d\x7d,~name~:\x7b~type~:~string~\x7d,~carParkDetailsUrl~:\x7b~type~:~string~\x7d\x7d\x7d,~Tfl.Api.Presentation.Entities.ChargeConnectorOccupancy~:\x7b~type~:~object~,~properties~:\x7b~id~:\x7b~type~:~integer~,~description~:~~,~format~:~int32~\x7d,~sourceSystemPlaceId~:\x7b~type~:~string~,~description~:~~\x7d,~status~:\x7b~type~:~string~,~description~:~~\x7d\x7d,~description~:~~\x7d,~Tfl.Api.Presentation.Entities.BikePointOccupancy~:\x7b~type~:~object~,~properties~:\x7b~id~:\x7b~type~:~string~,~description~:~Id of the bike point such as BikePoints_1~\x7d,~name~:\x7b~type~:~string~,~description~:~Name / Common name of the bike point~\x7d,~bikesCount~:\x7b~type~:~integer~,~description~:~Total bike counts~,~format~:~int32~\x7d,~emptyDocks~:\x7b~type~:~integer~,~description~:~Empty docks~,~format~:~int32~\x7d,~totalDocks~:\x7b~type~:~integer~,~description~:~Total docks available~,~format~:~int32~\x7d\x7d,~description~:~Bike point occupancy~\x7d\x7d,~securitySchemes~:\x7b~apiKeyHeader~:\x7b~type~:~apiKey~,~name~:~app_key~,~in~:~header~\x7d,~apiKeyQuery~:\x7b~type~:~apiKey~,~name~:~app_key~,~in~:~query~\x7d\x7d\x7d,~security~:[\x7b~apiKeyHeader~:[]\x7d,\x7b~apiKeyQuery~:[]\x7d]\x7d"),
  ("Place",
   "\x7b~openapi~:~3.0.1~,~info~:\x7b~title~:~Place~,~description~:~APIs relating to Place and similar services~,~version~:~1.0~\x7d,~servers~:[\x7b~url~:~https://api.tfl.gov.uk/Place~\x7d],~paths~:\x7b~/Meta/Categories~:\x7b~get~:\x7b~tags~:[~Place~],~summary~:~Gets a list of all of the available place property categories and keys.~,~description~:~Gets a list of all of the available place property categories and keys.~,~operationId~:~Place_MetaCategories~,~responses~:\x7b~200~:\x7b~description~:~OK~,~content~:\x7b~application/json~:\x7b~schema~:\x7b~$ref~:~#/components/schemas/MetaCategoriesGet200ApplicationJsonResponse~\x7d,~example~:[\x7b~category~:~string~,~availableKeys~:[~string~]\x7d]\x7d,~text/json~:\x7b~schema~:\x7b~$ref~:~#/components/schemas/MetaCategoriesGet200TextJsonResponse~\x7d,~example~:[\x7b~category~:~string~,~availableKeys~:[~string~]\x7d]\x7d,~application/xml~:\x7b~schema~:\x7b~$ref~:~#/components/schemas/MetaCategoriesGet200ApplicationXmlResponse~\x7d,~example~:~<MetaCategoriesGet200ApplicationXmlResponse> <category>string</category> <availableKeys>string</availableKeys> </MetaCategoriesGet200ApplicationXmlResponse>~\x7d,~text/xml~:\x7b~schema~:\x7b~$ref~:~#/components/schemas/MetaCategoriesGet200TextXmlResponse~\x7d,~example~:~<MetaCategoriesGet200TextXmlResponse> <category>string</category> <availableKeys>string</availableKeys> </MetaCategoriesGet200TextXmlResponse>~\x7d\x7d\x7d\x7d\x7d\x7d,~/Meta/PlaceTypes~:\x7b~get~:\x7b~tags~:[~Place~],~summary~:~Gets a list of the available types of Place.~,~description~:~Gets a list of the available types of Place.~,~operationId~:~Place_MetaPlaceTypes~,~responses~:\x7b~200~:\x7b~description~:~OK~,~content~:\x7b~application/json~:\x7b~schema~:\x7b~$ref~:~#/components/schemas/MetaPlaceTypesGet200ApplicationJsonResponse~\x7d,~example~:[\x7b~category~:~string~,~availableKeys~:[~string~]\x7d]\x7d,~text/json~:\x7b~schema~:\x7b~$ref~:~#/components/schemas/MetaPlaceTypesGet200TextJsonResponse~\x7d,~example~:[\x7b~category~:~string~,~availableKeys~:[~string~]\x7d]\x7d,~application/xml~:\x7b~schema~:\x7b~$ref~:~#/components/schemas/MetaPlaceTypesGet200ApplicationXmlResponse~\x7d,~example~:~<MetaPlaceTypesGet200ApplicationXmlResponse> <category>string</category> <availableKeys>string</availableKeys> </MetaPlaceTypesGet200ApplicationXmlResponse>~\x7d,~text/xml~:\x7b~schema~:\x7b~$ref~:~#/components/schemas/MetaPlaceTypesGet200TextXmlResponse~\x7d,~example~:~<MetaPlaceTypesGet200TextXmlResponse> <category>string</category> <availableKeys>string</availableKeys> </MetaPlaceTypesGet200TextXmlResponse>~\x7d\x7d\x7d\x7d\x7d\x7d,~/Type/\x7btypes\x7d~:\x7b~get~:\x7b~tags~:[~Place~],~summary~:~Gets all places of a given type~,~description~:~Gets all places of a given type~,~operationId~:~Place_GetByTypeByPathTypesQueryActiveOnly~,~parameters~:[\x7b~name~:~types~,~in~:~path~,~description~:~A comma-separated list of the types to return. Max. approx 12 types.\\r\\n            A valid list of place types can be obtained from the /Place/Meta/placeTypes endpoint.~,~required~:true,~schema~:\x7b~type~:~string~\x7d,~example~:~CarPark~\x7d,\x7b~name~:~activeOnly~,~in~:~query~,~description~:~An optional parameter to limit the results to active records only (Currently only the 'VariableMessageSign' place type is supported)~,~schema~:\x7b~type~:~boolean~\x7d\x7d],~responses~:\x7b~200~:\x7b~description~:~OK~,~content~:\x7b~application/json~:\x7b~schema~:\x7b~$ref~:~#/components/schemas/Type-types-Get200ApplicationJsonResponse~\x7d\x7d,~text/json~:\x7b~schema~:\x7b~$ref~:~#/components/schemas/Type-types-Get200TextJsonResponse~\x7d\x7d,~application/xml~:\x7b~schema~:\x7b~$ref~:~#/components/schemas/Type-types-Get200ApplicationXmlResponse~\x7d\x7d,~text/xml~:\x7b~schema~:\x7b~$ref~:~#/components/schemas/Type-types-Get200TextXmlResponse~\x7d\x7d\x7d\x7d\x7d\x7d\x7d,~/\x7bid\x7d~:\x7b~get~:\x7b~tags~:[~Place~],~summary~:~Gets the place with the given id.~,~description~:~Gets the place with the given id.~,~operationId~:~Place_GetByPathIdQueryIncludeChildren~,~parameters~:[\x7b~name~:~id~,~in~:~path~,~description~:~The id of the place, you can use the /Place/Types/\x7btypes\x7d endpoint to get a list of places for a given type including their ids~,~required~:true,~schema~:\x7b~type~:~string~\x7d,~example~:~CarParks_800491~\x7d,\x7b~name~:~includeChildren~,~in~:~query~,~description~:~Defaults to false. If true child places e.g. individual charging stations at a charge point while be included, otherwise just the URLs of any child places will be returned~,~schema~:\x7b~type~:~boolean~\x7d\x7d],~responses~:\x7b~200~:\x7b~description~:~OK~,~content~:\x7b~application/json~:\x7b~schema~:\x7b~$ref~:~#/components/schemas/id-Get200ApplicationJsonResponse~\x7d\x7d,~text/json~:\x7b~schema~:\x7b~$ref~:~#/components/schemas/id-Get200TextJsonResponse~\x7d\x7d,~application/xml~:\x7b~schema~:\x7b~$ref~:~#/components/schemas/id-Get200ApplicationXmlResponse~\x7d\x7d,~text/xml~:\x7b~schema~:\x7b~$ref~:~#/components/schemas/id-Get200TextXmlResponse~\x7d\x7d\x7d\x7d\x7d\x7d\x7d,~/~:\x7b~get~:\x7b~tags~:[~Place~],~summary~:~Gets the places that lie within a geographic region. The geographic region of interest can either be specified by using a lat/lon geo-point and a radius in metres to return places within the locus defined by the lat/lon of its centre or alternatively, by the use of a bounding box defined by the lat/~,~description~:~Gets the places that lie within a geographic region. The geographic region of interest can either be specified by using a lat/lon geo-point and a radius in metres to return places within the locus defined by the lat/lon of its centre or alternatively, by the use of a bounding box defined by the lat/lon of its north-west and south-east corners. Optionally filters on type and can strip properties for a smaller payload.~,~operationId~:~Place_GetByGeoPointByQueryLatQueryLonQueryRadiusQueryCategoriesQueryIncludeC~,~parameters~:[\x7b~name~:~Lat~,~in~:~query~,~description~:~Format - double. lat is latitude of the centre of the bounding circle.~,~required~:true,~schema~:\x7b~type~:~number~\x7d,~example~:51.5029703\x7d,\x7b~name~:~Lon~,~in~:~query~,~description~:~Format - double. lon is longitude of the centre of the bounding circle.~,~required~:true,~schema~:\x7b~type~:~number~\x7d,~example~:-0.1365283\x7d,\x7b~name~:~radius~,~in~:~query~,~description~:~Format - double. The radius of the bounding circle in metres when only lat/lon are specified.~,~schema~:\x7b~type~:~number~\x7d,~example~:100\x7d,\x7b~name~:~categories~,~in~:~query~,~description~:~An optional list of comma separated property categories to return in the Place's property bag. If null or empty, all categories of property are returned. Pass the keyword \\~none\\~ to return no properties (a valid list of categories can be obtained from the /Place/Meta/categories endpoint)~,~schema~:\x7b~type~:~array~\x7d\x7d,\x7b~name~:~includeChildren~,~in~:~query~,~description~:~Defaults to false. If true child places e.g. individual charging stations at a charge point while be included, otherwise just the URLs of any child places will be returned~,~schema~:\x7b~type~:~boolean~\x7d\x7d,\x7b~name~:~type~,~in~:~query~,~description~:~Place types to filter on, or null to return all types~,~schema~:\x7b~type~:~array~\x7d\x7d,\x7b~name~:~activeOnly~,~in~:~query~,~description~:~An optional parameter to limit the results to active records only (Currently only the 'VariableMessageSign' place type is supported)~,~schema~:\x7b~type~:~boolean~\x7d\x7d,\x7b~name~:~numberOfPlacesToReturn~,~in~:~query~,~description~:~Format - int32. If specified, limits the number of returned places equal to the given value~,~schema~:\x7b~type~:~integer~\x7d\x7d],~responses~:\x7b~200~:\x7b~description~:~OK~,~content~:\x7b~application/json~:\x7b~schema~:\x7b~$ref~:~#/components/schemas/Get200ApplicationJsonResponse-1~\x7d\x7d,~text/json~:\x7b~schema~:\x7b~$ref~:~#/components/schemas/Get200TextJsonResponse~\x7d\x7d,~application/xml~:\x7b~schema~:\x7b~$ref~:~#/components/schemas/Get200ApplicationXmlResponse~\x7d\x7d,~text/xml~:\x7b~schema~:\x7b~$ref~:~#/components/schemas/Get200TextXmlResponse~\x7d\x7d\x7d\x7d\x7d\x7d\x7d,~/\x7btype\x7d/At/\x7blat\x7d/\x7blon\x7d~:\x7b~get~:\x7b~tags~:[~Place~],~summary~:~Gets any places of the given type whose geography intersects the given latitude and longitude. In practice this means the Place must be polygonal e.g. a BoroughBoundary.~,~description~:~Gets any places of the given type whose geography intersects the given latitude and longitude. In practice this means the Place must be polygonal e.g. a BoroughBoundary.~,~operationId~:~Place_GetAtByPathTypePathLatPathLon~,~parameters~:[\x7b~name~:~type~,~in~:~path~,~description~:~The place type (a valid list of place types can be obtained from the /Place/Meta/placeTypes endpoint)~,~required~:true,~schema~:\x7b~type~:~string~\x7d,~example~:~CarPark~\x7d,\x7b~name~:~lat~,~in~:~path~,~description~:~Format - double. lat is latitude of the centre of the bounding circle.~,~required~:true,~schema~:\x7b~type~:~number~\x7d,~example~:51.5029703\x7d,\x7b~name~:~lon~,~in~:~path~,~description~:~Format - double. lon is longitude of the centre of the bounding circle~,~required~:true,~schema~:\x7b~type~:~number~\x7d,~example~:-0.1365283\x7d],~responses~:\x7b~200~:\x7b~description~:~OK~,~content~:\x7b~application/json~:\x7b~schema~:\x7b~$ref~:~#/components/schemas/System~\x7d\x7d,~text/json~:\x7b~schema~:\x7b~$ref~:~#/components/schemas/System~\x7d\x7d,~application/xml~:\x7b~schema~:\x7b~$ref~:~#/components/schemas/System~\x7d,~example~:~<System />~\x7d,~text/xml~:\x7b~schema~:\x7b~$ref~:~#/components/schemas/System~\x7d,~example~:~<System />~\x7d\x7d\x7d\x7d\x7d\x7d,~/Search~:\x7b~get~:\x7b~tags~:[~Place~],~summary~:~Gets all places that matches the given query~,~description~:~Gets all places that matches the given query~,~operationId~:~Place_SearchByQueryNameQueryTypes~,~parameters~:[\x7b~name~:~name~,~in~:~query~,~description~:~The name of the place, you can use the /Place/Types/\x7btypes\x7d endpoint to get a list of places for a given type including their names.~,~required~:true,~schema~:\x7b~type~:~string~\x7d,~example~:~Bridge~\x7d,\x7b~name~:~types~,~in~:~query~,~description~:~A comma-separated list of the types to return. Max. approx 12 types.~,~schema~:\x7b~type~:~array~\x7d\x7d],~responses~:\x7b~200~:\x7b~description~:~OK~,~content~:\x7b~application/json~:\x7b~schema~:\x7b~$ref~:~#/components/schemas/SearchGet200ApplicationJsonResponse~\x7d\x7d,~text/json~:\x7b~schema~:\x7b~$ref~:~#/components/schemas/SearchGet200TextJsonResponse~\x7d\x7d,~application/xml~:\x7b~schema~:\x7b~$ref~:~#/components/schemas/SearchGet200ApplicationXmlResponse~\x7d\x7d,~text/xml~:\x7b~schema~:\x7b~$ref~:~#/components/schemas/SearchGet200TextXmlResponse~\x7d\x7d\x7d\x7d\x7d\x7d\x7d,~/*~:\x7b~get~:\x7b~tags~:[~StopPoint~],~summary~:~Forwards any remaining requests to the back-end~,~description~:~Forwards any remaining requests to the back-end~,~operationId~:~Forward_Proxy~,~responses~:\x7b~200~:\x7b~description~:~OK~,~content~:\x7b~application/json~:\x7b~schema~:\x7b~$ref~:~#/components/schemas/Get200ApplicationJsonResponse~\x7d\x7d\x7d\x7d\x7d\x7d\x7d\x7d,~components~:\x7b~schemas~:\x7b~Tfl~:\x7b~type~:~object~,~properties~:\x7b~category~:\x7b~type~:~string~\x7d,~availableKeys~:\x7b~type~:~array~,~items~:\x7b~type~:~string~\x7d\x7d\x7d\x7d,~Tfl-2~:\x7b~type~:~object~,~properties~:\x7b~category~:\x7b~type~:~string~\x7d,~key~:\x7b~type~:~string~\x7d,~sourceSystemKey~:\x7b~type~:~string~\x7d,~value~:\x7b~type~:~string~\x7d,~modified~:\x7b~type~:~string~,~format~:~date-time~\x7d\x7d\x7d,~Tfl-3~:\x7b~type~:~object~,~properties~:\x7b~id~:\x7b~type~:~string~,~description~:~A unique identifier.~\x7d,~url~:\x7b~type~:~string~,~description~:~The unique location of this resource.~\x7d,~commonName~:\x7b~type~:~string~,~description~:~A human readable name.~\x7d,~distance~:\x7b~type~:~number~,~description~:~The distance of the place from its search point, if this is the result\\r\\n            of a geographical search, otherwise zero.~,~format~:~double~\x7d,~placeType~:\x7b~type~:~string~,~description~:~The type of Place. See /Place/Meta/placeTypes for possible values.~\x7d,~additionalProperties~:\x7b~type~:~array~,~items~:\x7b~$ref~:~#/components/schemas/Tfl-2~\x7d,~description~:~A bag of additional key/value pairs with extra information about this place.~\x7d,~children~:\x7b~type~:~array~,~items~:\x7b~$ref~:~#/components/schemas/Tfl-3~\x7d\x7d,~childrenUrls~:\x7b~type~:~array~,~items~:\x7b~type~:~string~\x7d\x7d,~lat~:\x7b~type~:~number~,~description~:~WGS84 latitude of the location.~,~format~:~double~\x7d,~lon~:\x7b~type~:~number~,~description~:~WGS84 longitude of the location.~,~format~:~double~\x7d\x7d\x7d,~Tfl-4~:\x7b~type~:~object~,~properties~:\x7b~timeSlice~:\x7b~type~:~string~,~description~:~Time in 24hr format with 15 minute intervals e.g. 0500-0515, 0515-0530 etc.~\x7d,~value~:\x7b~type~:~integer~,~description~:~Count of passenger flow towards a platform~,~format~:~int32~\x7d\x7d\x7d,~Tfl-5~:\x7b~type~:~object~,~properties~:\x7b~line~:\x7b~type~:~string~,~description~:~The Line Name e.g. \\~Victoria\\~~\x7d,~lineDirection~:\x7b~type~:~string~,~description~:~Direction of the Line e.g. NB, SB, WB etc.~\x7d,~platformDirection~:\x7b~type~:~string~,~description~:~Direction displayed on the platform e.g. NB, SB, WB etc.~\x7d,~direction~:\x7b~type~:~string~,~description~:~Direction in regards to Journey Planner i.e. inbound or outbound~\x7d,~naptanTo~:\x7b~type~:~string~,~description~:~Naptan of the adjacent station~\x7d,~timeSlice~:\x7b~type~:~string~,~description~:~Time in 24hr format with 15 minute intervals e.g. 0500-0515, 0515-0530 etc.~\x7d,~value~:\x7b~type~:~integer~,~description~:~Scale between 1-6, \\r\\n             1 = Very quiet, 2 = Quiet, 3 = Fairly busy, 4 = Busy, 5 = Very busy, 6 = Exceptionally busy~,~format~:~int32~\x7d\x7d\x7d,~Tfl-6~:\x7b~type~:~object~,~properties~:\x7b~passengerFlows~:\x7b~type~:~array~,~items~:\x7b~$ref~:~#/components/schemas/Tfl-4~\x7d,~description~:~Busiest times at a station (static information)~\x7d,~trainLoadings~:\x7b~type~:~array~,~items~:\x7b~$ref~:~#/components/schemas/Tfl-5~\x7d,~description~:~Train Loading on a scale 1-6, 1 being \\~Very quiet\\~ and 6 being \\~Exceptionally busy\\~ (static information)~\x7d\x7d\x7d,~Tfl-7~:\x7b~type~:~object~,~properties~:\x7b~id~:\x7b~type~:~string~\x7d,~name~:\x7b~type~:~string~\x7d,~uri~:\x7b~type~:~string~\x7d,~fullName~:\x7b~type~:~string~\x7d,~type~:\x7b~type~:~string~\x7d,~crowding~:\x7b~$ref~:~#/components/schemas/Tfl-6~\x7d,~routeType~:\x7b~enum~:[~Unknown~,~All~,~Cycle Superhighways~,~Quietways~,~Cycleways~,~Mini-Hollands~,~Central London Grid~,~Streetspace Route~],~type~:~string~\x7d,~status~:\x7b~enum~:[~Unknown~,~All~,~Open~,~In Progress~,~Planned~,~Planned - Subject to feasibility and consultation.~,~Not Open~],~type~:~string~\x7d\x7d\x7d,~Tfl-8~:\x7b~type~:~object~,~properties~:\x7b~naptanIdReference~:\x7b~type~:~string~\x7d,~stationAtcoCode~:\x7b~type~:~string~\x7d,~lineIdentifier~:\x7b~type~:~array~,~items~:\x7b~type~:~string~\x7d\x7d\x7d\x7d,~Tfl-9~:\x7b~type~:~object~,~properties~:\x7b~modeName~:\x7b~type~:~string~\x7d,~lineIdentifier~:\x7b~type~:~array~,~items~:\x7b~type~:~string~\x7d\x7d\x7d\x7d,~Tfl-10~:\x7b~type~:~object~,~properties~:\x7b~naptanId~:\x7b~type~:~string~\x7d,~platformName~:\x7b~type~:~string~\x7d,~indicator~:\x7b~type~:~string~,~description~:~The indicator of the stop point e.g. \\~Stop K\\~~\x7d,~stopLetter~:\x7b~type~:~string~,~description~:~The stop letter, if it could be cleansed from the Indicator e.g. \\~K\\~~\x7d,~modes~:\x7b~type~:~array~,~items~:\x7b~type~:~string~\x7d\x7d,~icsCode~:\x7b~type~:~string~\x7d,~smsCode~:\x7b~type~:~string~\x7d,~stopType~:\x7b~type~:~string~\x7d,~stationNaptan~:\x7b~type~:~string~\x7d,~accessibilitySummary~:\x7b~type~:~string~\x7d,~hubNaptanCode~:\x7b~type~:~string~\x7d,~lines~:\x7b~type~:~array~,~items~:\x7b~$ref~:~#/components/schemas/Tfl-7~\x7d\x7d,~lineGroup~:\x7b~type~:~array~,~items~:\x7b~$ref~:~#/components/schemas/Tfl-8~\x7d\x7d,~lineModeGroups~:\x7b~type~:~array~,~items~:\x7b~$ref~:~#/components/schemas/Tfl-9~\x7d\x7d,~fullName~:\x7b~type~:~string~\x7d,~naptanMode~:\x7b~type~:~string~\x7d,~status~:\x7b~type~:~boolean~\x7d,~id~:\x7b~type~:~string~,~description~:~A unique identifier.~\x7d,~url~:\x7b~type~:~string~,~description~:~The unique location of this resource.~\x7d,~commonName~:\x7b~type~:~string~,~description~:~A human readable name.~\x7d,~distance~:\x7b~type~:~number~,~description~:~The distance of the place from its search point, if this is the result\\r\\n            of a geographical search, otherwise zero.~,~format~:~double~\x7d,~placeType~:\x7b~type~:~string~,~description~:~The type of Place. See /Place/Meta/placeTypes for possible values.~\x7d,~additionalProperties~:\x7b~type~:~array~,~items~:\x7b~$ref~:~#/components/schemas/Tfl-2~\x7d,~description~:~A bag of additional key/value pairs with extra information about this place.~\x7d,~children~:\x7b~type~:~array~,~items~:\x7b~$ref~:~#/components/schemas/Tfl-3~\x7d\x7d,~childrenUrls~:\x7b~type~:~array~,~items~:\x7b~type~:~string~\x7d\x7d,~lat~:\x7b~type~:~number~,~description~:~WGS84 latitude of the location.~,~format~:~double~\x7d,~lon~:\x7b~type~:~number~,~description~:~WGS84 longitude of the location.~,~format~:~double~\x7d\x7d\x7d,~System~:\x7b~type~:~object~\x7d,~MetaCategoriesGet200ApplicationJsonResponse~:\x7b~type~:~array~,~items~:\x7b~$ref~:~#/components/schemas/Tfl~\x7d\x7d,~MetaCategoriesGet200TextJsonResponse~:\x7b~type~:~array~,~items~:\x7b~$ref~:~#/components/schemas/Tfl~\x7d\x7d,~MetaCategoriesGet200ApplicationXmlResponse~:\x7b~type~:~array~,~items~:\x7b~$ref~:~#/components/schemas/Tfl~\x7d\x7d,~MetaCategoriesGet200TextXmlResponse~:\x7b~type~:~array~,~items~:\x7b~$ref~:~#/components/schemas/Tfl~\x7d\x7d,~Get200ApplicationJsonResponse~:\x7b~type~:~object~\x7d,~MetaPlaceTypesGet200ApplicationJsonResponse~:\x7b~type~:~array~,~items~:\x7b~$ref~:~#/components/schemas/Tfl~\x7d\x7d,~MetaPlaceTypesGet200TextJsonResponse~:\x7b~type~:~array~,~items~:\x7b~$ref~:~#/components/schemas/Tfl~\x7d\x7d,~MetaPlaceTypesGet200ApplicationXmlResponse~:\x7b~type~:~array~,~items~:\x7b~$ref~:~#/components/schemas/Tfl~\x7d\x7d,~MetaPlaceTypesGet200TextXmlResponse~:\x7b~type~:~array~,~items~:\x7b~$ref~:~#/components/schemas/Tfl~\x7d\x7d,~Type-types-Get200ApplicationJsonResponse~:\x7b~type~:~array~,~items~:\x7b~$ref~:~#/components/schemas/Tfl-3~\x7d\x7d,~Type-types-Get200TextJsonResponse~:\x7b~type~:~array~,~items~:\x7b~$ref~:~#/components/schemas/Tfl-3~\x7d\x7d,~Type-types-Get200ApplicationXmlResponse~:\x7b~type~:~array~,~items~:\x7b~$ref~:~#/components/schemas/Tfl-3~\x7d\x7d,~Type-types-Get200TextXmlResponse~:\x7b~type~:~array~,~items~:\x7b~$ref~:~#/components/schemas/Tfl-3~\x7d\x7d,~id-Get200ApplicationJsonResponse~:\x7b~type~:~array~,~items~:\x7b~$ref~:~#/components/schemas/Tfl-3~\x7d\x7d,~id-Get200TextJsonResponse~:\x7b~type~:~array~,~items~:\x7b~$ref~:~#/components/schemas/Tfl-3~\x7d\x7d,~id-Get200ApplicationXmlResponse~:\x7b~type~:~array~,~items~:\x7b~$ref~:~#/components/schemas/Tfl-3~\x7d\x7d,~id-Get200TextXmlResponse~:\x7b~type~:~array~,~items~:\x7b~$ref~:~#/components/schemas/Tfl-3~\x7d\x7d,~Get200ApplicationJsonResponse-1~:\x7b~type~:~array~,~items~:\x7b~$ref~:~#/components/schemas/Tfl-10~\x7d\x7d,~Get200TextJsonResponse~:\x7b~type~:~array~,~items~:\x7b~$ref~:~#/components/schemas/Tfl-10~\x7d\x7d,~Get200ApplicationXmlResponse~:\x7b~type~:~array~,~items~:\x7b~$ref~:~#/components/schemas/Tfl-10~\x7d\x7d,~Get200TextXmlResponse~:\x7b~type~:~array~,~items~:\x7b~$ref~:~#/components/schemas/Tfl-10~\x7d\x7d,~SearchGet200ApplicationJsonResponse~:\x7b~type~:~array~,~items~:\x7b~$ref~:~#/components/schemas/Tfl-3~\x7d\x7d,~SearchGet200TextJsonResponse~:\x7b~type~:~array~,~items~:\x7b~$ref~:~#/components/schemas/Tfl-3~\x7d\x7d,~SearchGet200ApplicationXmlResponse~:\x7b~type~:~array~,~items~:\x7b~$ref~:~#/components/schemas/Tfl-3~\x7d\x7d,~SearchGet200TextXmlResponse~:\x7b~type~:~array~,~items~:\x7b~$ref~:~#/components/schemas/Tfl-3~\x7d\x7d\x7d,~securitySchemes~:\x7b~apiKeyHeader~:\x7b~type~:~apiKey~,~name~:~app_key~,~in~:~header~\x7d,~apiKeyQuery~:\x7b~type~:~apiKey~,~name~:~app_key~,~in~:~query~\x7d\x7d\x7d,~security~:[\x7b~apiKeyHeader~:[]\x7d,\x7b~apiKeyQuery~:[]\x7d]\x7d"),
  ("Road",
   "\x7b~openapi~:~3.0.1~,~info~:\x7b~title~:~Road~,~description~:~APIs relating to Road and similar services~,~version~:~1.0~\x7d,~servers~:[\x7b~url~:~https://api.tfl.gov.uk/Road~\x7d],~paths~:\x7b~/~:\x7b~get~:\x7b~tags~:[~Road~],~summary~:~Gets all roads managed by TfL~,~description~:~Gets all roads managed by TfL~,~operationId~:~Road_Get~,~responses~:\x7b~200~:\x7b~description~:~OK~,~content~:\x7b~application/json~:\x7b~schema~:\x7b~$ref~:~#/components/schemas/Get200ApplicationJsonResponse~\x7d,~example~:[\x7b~id~:~string~,~displayName~:~string~,~group~:~string~,~statusSeverity~:~string~,~statusSeverityDescription~:~string~,~bounds~:~string~,~envelope~:~string~,~statusAggregationStartDate~:~string~,~statusAggregationEndDate~:~string~,~url~:~string~\x7d]\x7d,~text/json~:\x7b~schema~:\x7b~$ref~:~#/components/schemas/Get200TextJsonResponse~\x7d,~example~:[\x7b~id~:~string~,~displayName~:~string~,~group~:~string~,~statusSeverity~:~string~,~statusSeverityDescription~:~string~,~bounds~:~string~,~envelope~:~string~,~statusAggregationStartDate~:~string~,~statusAggregationEndDate~:~string~,~url~:~string~\x7d]\x7d,~application/xml~:\x7b~schema~:\x7b~$ref~:~#/components/schemas/Get200ApplicationXmlResponse~\x7d,~example~:~<Get200ApplicationXmlResponse> <id>string</id> <displayName>string</displayName> <group>string</group> <statusSeverity>string</statusSeverity> <statusSeverityDescription>string</statusSeverityDescription> <bounds>string</bounds> <envelope>string</envelope> <statusAggregationStartDate>string</statusAggregationStartDate> <statusAggregationEndDate>string</statusAggregationEndDate> <url>string</url> </Get200ApplicationXmlResponse>~\x7d,~text/xml~:\x7b~schema~:\x7b~$ref~:~#/components/schemas/Get200TextXmlResponse~\x7d,~example~:~<Get200TextXmlResponse> <id>string</id> <displayName>string</displayName> <group>string</group> <statusSeverity>string</statusSeverity> <statusSeverityDescription>string</statusSeverityDescription> <bounds>string</bounds> <envelope>string</envelope> <statusAggregationStartDate>string</statusAggregationStartDate> <statusAggregationEndDate>string</statusAggregationEndDate> <url>string</url> </Get200TextXmlResponse>~\x7d\x7d\x7d\x7d\x7d\x7d,~/\x7bids\x7d~:\x7b~get~:\x7b~tags~:[~Road~],~summary~:~Gets the road with the specified id (e.g. A1)~,~description~:~Gets the road with the specified id (e.g. A1)~,~operationId~:~Road_GetByPathIds~,~parameters~:[\x7b~name~:~ids~,~in~:~path~,~description~:~Comma-separated list of road identifiers e.g. \\~A406, A2\\~ (a full list of supported road identifiers can be found at the /Road/ endpoint)~,~required~:true,~schema~:\x7b~type~:~string~\x7d,~example~:~A1~\x7d],~responses~:\x7b~200~:\x7b~description~:~OK~,~content~:\x7b~application/json~:\x7b~schema~:\x7b~$ref~:~#/components/schemas/ids-Get200ApplicationJsonResponse~\x7d,~example~:[\x7b~id~:~string~,~displayName~:~string~,~group~:~string~,~statusSeverity~:~string~,~statusSeverityDescription~:~string~,~bounds~:~string~,~envelope~:~string~,~statusAggregationStartDate~:~string~,~statusAggregationEndDate~:~string~,~url~:~string~\x7d]\x7d,~text/json~:\x7b~schema~:\x7b~$ref~:~#/components/schemas/ids-Get200TextJsonResponse~\x7d,~example~:[\x7b~id~:~string~,~displayName~:~string~,~group~:~string~,~statusSeverity~:~string~,~statusSeverityDescription~:~string~,~bounds~:~string~,~envelope~:~string~,~statusAggregationStartDate~:~string~,~statusAggregationEndDate~:~string~,~url~:~string~\x7d]\x7d,~application/xml~:\x7b~schema~:\x7b~$ref~:~#/components/schemas/ids-Get200ApplicationXmlResponse~\x7d,~example~:~<ids-Get200ApplicationXmlResponse> <id>string</id> <displayName>string</displayName> <group>string</group> <statusSeverity>string</statusSeverity> <statusSeverityDescription>string</statusSeverityDescription> <bounds>string</bounds> <envelope>string</envelope> <statusAggregationStartDate>string</statusAggregationStartDate> <statusAggregationEndDate>string</statusAggregationEndDate> <url>string</url> </ids-Get200ApplicationXmlResponse>~\x7d,~text/xml~:\x7b~schema~:\x7b~$ref~:~#/components/schemas/ids-Get200TextXmlResponse~\x7d,~example~:~<ids-Get200TextXmlResponse> <id>string</id> <displayName>string</displayName> <group>string</group> <statusSeverity>string</statusSeverity> <statusSeverityDescription>string</statusSeverityDescription> <bounds>string</bounds> <envelope>string</envelope> <statusAggregationStartDate>string</statusAggregationStartDate> <statusAggregationEndDate>string</statusAggregationEndDate> <url>string</url> </ids-Get200TextXmlResponse>~\x7d\x7d\x7d\x7d\x7d\x7d,~/\x7bids\x7d/Status~:\x7b~get~:\x7b~tags~:[~Road~],~summary~:~Gets the specified roads with the status aggregated over the date range specified, or now until the end of today if no dates are passed.~,~description~:~Gets the specified roads with the status aggregated over the date range specified, or now until the end of today if no dates are passed.~,~operationId~:~Road_StatusByPathIdsQueryStartDateQueryEndDate~,~parameters~:[\x7b~name~:~ids~,~in~:~path~,~description~:~Comma-separated list of road identifiers e.g. \\~A406, A2\\~ or use \\~all\\~ to ignore id filter (a full list of supported road identifiers can be found at the /Road/ endpoint)~,~required~:true,~schema~:\x7b~type~:~string~\x7d,~example~:~A2~\x7d,\x7b~name~:~startDate~,~in~:~query~,~description~:~Format - date-time (as date-time in RFC3339). The start date to aggregate status from~,~schema~:\x7b~type~:~string~\x7d\x7d,\x7b~name~:~endDate~,~in~:~query~,~description~:~Format - date-time (as date-time in RFC3339). The end date to aggregate status up to~,~schema~:\x7b~type~:~string~\x7d\x7d],~responses~:\x7b~200~:\x7b~description~:~OK~,~content~:\x7b~application/json~:\x7b~schema~:\x7b~$ref~:~#/components/schemas/ids-StatusGet200ApplicationJsonResponse~\x7d,~example~:[\x7b~id~:~string~,~displayName~:~string~,~group~:~string~,~statusSeverity~:~string~,~statusSeverityDescription~:~string~,~bounds~:~string~,~envelope~:~string~,~statusAggregationStartDate~:~string~,~statusAggregationEndDate~:~string~,~url~:~string~\x7d]\x7d,~text/json~:\x7b~schema~:\x7b~$ref~:~#/components/schemas/ids-StatusGet200TextJsonResponse~\x7d,~example~:[\x7b~id~:~string~,~displayName~:~string~,~group~:~string~,~statusSeverity~:~string~,~statusSeverityDescription~:~string~,~bounds~:~string~,~envelope~:~string~,~statusAggregationStartDate~:~string~,~statusAggregationEndDate~:~string~,~url~:~string~\x7d]\x7d,~application/xml~:\x7b~schema~:\x7b~$ref~:~#/components/schemas/ids-StatusGet200ApplicationXmlResponse~\x7d,~example~:~<ids-StatusGet200ApplicationXmlResponse> <id>string</id> <displayName>string</displayName> <group>string</group> <statusSeverity>string</statusSeverity> <statusSeverityDescription>string</statusSeverityDescription> <bounds>string</bounds> <envelope>string</envelope> <statusAggregationStartDate>string</statusAggregationStartDate> <statusAggregationEndDate>string</statusAggregationEndDate> <url>string</url> </ids-StatusGet200ApplicationXmlResponse>~\x7d,~text/xml~:\x7b~schema~:\x7b~$ref~:~#/components/schemas/ids-StatusGet200TextXmlResponse~\x7d,~example~:~<ids-StatusGet200TextXmlResponse> <id>string</id> <displayName>string</displayName> <group>string</group> <statusSeverity>string</statusSeverity> <statusSeverityDescription>string</statusSeverityDescription> <bounds>string</bounds> <envelope>string</envelope> <statusAggregationStartDate>string</statusAggregationStartDate> <statusAggregationEndDate>string</statusAggregationEndDate> <url>string</url> </ids-StatusGet200TextXmlResponse>~\x7d\x7d\x7d\x7d\x7d\x7d,~/\x7bids\x7d/Disruption~:\x7b~get~:\x7b~tags~:[~Road~],~summary~:~Get active disruptions, filtered by road ids~,~description~:~Get active disruptions, filtered by road ids~,~operationId~:~Road_DisruptionByPathIdsQueryStripContentQuerySeveritiesQueryCategoriesQuery~,~parameters~:[\x7b~name~:~ids~,~in~:~path~,~description~:~Comma-separated list of road identifiers e.g. \\~A406, A2\\~ use all for all to ignore id filter (a full list of supported road identifiers can be found at the /Road/ endpoint)~,~required~:true,~schema~:\x7b~type~:~string~\x7d,~example~:~A406~\x7d,\x7b~name~:~stripContent~,~in~:~query~,~description~:~Optional, defaults to false. When true, removes every property/node except for id, point, severity, severityDescription, startDate, endDate, corridor details, location, comments and streets~,~schema~:\x7b~type~:~boolean~\x7d\x7d,\x7b~name~:~severities~,~in~:~query~,~description~:~an optional list of Severity names to filter on (a valid list of severities can be obtained from the /Road/Meta/severities endpoint)~,~schema~:\x7b~type~:~array~\x7d\x7d,\x7b~name~:~categories~,~in~:~query~,~description~:~an optional list of category names to filter on (a valid list of categories can be obtained from the /Road/Meta/categories endpoint)~,~schema~:\x7b~type~:~array~\x7d\x7d,\x7b~name~:~closures~,~in~:~query~,~description~:~Optional, defaults to true. When true, always includes disruptions that have road closures, regardless of the severity filter. When false, the severity filter works as normal.~,~schema~:\x7b~type~:~boolean~\x7d\x7d],~responses~:\x7b~200~:\x7b~description~:~OK~,~content~:\x7b~application/json~:\x7b~schema~:\x7b~$ref~:~#/components/schemas/ids-DisruptionGet200ApplicationJsonResponse~\x7d,~example~:[\x7b~id~:~string~,~url~:~string~,~point~:~string~,~severity~:~string~,~ordinal~:0,~category~:~string~,~subCategory~:~string~,~comments~:~string~,~currentUpdate~:~string~,~currentUpdateDateTime~:~string~,~corridorIds~:[~string~],~startDateTime~:~string~,~endDateTime~:~string~,~lastModifiedTime~:~string~,~levelOfInterest~:~string~,~location~:~string~,~status~:~string~,~geography~:\x7b~geography~:\x7b~coordinateSystemId~:0,~wellKnownText~:~string~,~wellKnownBinary~:~string~\x7d\x7d,~geometry~:\x7b~geography~:\x7b~coordinateSystemId~:0,~wellKnownText~:~string~,~wellKnownBinary~:~string~\x7d\x7d,~streets~:[\x7b~name~:~string~,~closure~:~string~,~directions~:~string~,~segments~:[\x7b~toid~:~string~,~lineString~:~string~,~sourceSystemId~:0,~sourceSystemKey~:~string~\x7d],~sourceSystemId~:0,~sourceSystemKey~:~string~\x7d],~isProvisional~:true,~hasClosures~:true,~linkText~:~string~,~linkUrl~:~string~,~roadProject~:\x7b~projectId~:~string~,~schemeName~:~string~,~projectName~:~string~,~projectDescription~:~string~,~projectPageUrl~:~string~,~consultationPageUrl~:~string~,~consultationStartDate~:~string~,~consultationEndDate~:~string~,~constructionStartDate~:~string~,~constructionEndDate~:~string~,~boroughsBenefited~:[~string~],~cycleSuperhighwayId~:~string~,~phase~:~Unscoped~,~contactName~:~string~,~contactEmail~:~string~,~externalPageUrl~:~string~,~projectSummaryPageUrl~:~string~\x7d,~publishStartDate~:~string~,~publishEndDate~:~string~,~timeFrame~:~string~,~roadDisruptionLines~:[\x7b~id~:0,~roadDisruptionId~:~string~,~isDiversion~:true,~multiLineString~:\x7b~geography~:\x7b~coordinateSystemId~:0,~wellKnownText~:~string~,~wellKnownBinary~:~string~\x7d\x7d,~startDate~:~string~,~endDate~:~string~,~startTime~:~string~,~endTime~:~string~\x7d],~roadDisruptionImpactAreas~:[\x7b~id~:0,~roadDisruptionId~:~string~,~polygon~:\x7b~geography~:\x7b~coordinateSystemId~:0,~wellKnownText~:~string~,~wellKnownBinary~:~string~\x7d\x7d,~startDate~:~string~,~endDate~:~string~,~startTime~:~string~,~endTime~:~string~\x7d],~recurringSchedules~:[\x7b~startTime~:~string~,~endTime~:~string~\x7d]\x7d]\x7d,~text/json~:\x7b~schema~:\x7b~$ref~:~#/components/schemas/ids-DisruptionGet200TextJsonResponse~\x7d,~example~:[\x7b~id~:~string~,~url~:~string~,~point~:~string~,~severity~:~string~,~ordinal~:0,~category~:~string~,~subCategory~:~string~,~comments~:~string~,~currentUpdate~:~string~,~currentUpdateDateTime~:~string~,~corridorIds~:[~string~],~startDateTime~:~string~,~endDateTime~:~string~,~lastModifiedTime~:~string~,~levelOfInterest~:~string~,~location~:~string~,~status~:~string~,~geography~:\x7b~geography~:\x7b~coordinateSystemId~:0,~wellKnownText~:~string~,~wellKnownBinary~:~string~\x7d\x7d,~geometry~:\x7b~geography~:\x7b~coordinateSystemId~:0,~wellKnownText~:~string~,~wellKnownBinary~:~string~\x7d\x7d,~streets~:[\x7b~name~:~string~,~closure~:~string~,~directions~:~string~,~segments~:[\x7b~toid~:~string~,~lineString~:~string~,~sourceSystemId~:0,~sourceSystemKey~:~string~\x7d],~sourceSystemId~:0,~sourceSystemKey~:~string~\x7d],~isProvisional~:true,~hasClosures~:true,~linkText~:~string~,~linkUrl~:~string~,~roadProject~:\x7b~projectId~:~string~,~schemeName~:~string~,~projectName~:~string~,~projectDescription~:~string~,~projectPageUrl~:~string~,~consultationPageUrl~:~string~,~consultationStartDate~:~string~,~consultationEndDate~:~string~,~constructionStartDate~:~string~,~constructionEndDate~:~string~,~boroughsBenefited~:[~string~],~cycleSuperhighwayId~:~string~,~phase~:~Unscoped~,~contactName~:~string~,~contactEmail~:~string~,~externalPageUrl~:~string~,~projectSummaryPageUrl~:~string~\x7d,~publishStartDate~:~string~,~publishEndDate~:~string~,~timeFrame~:~string~,~roadDisruptionLines~:[\x7b~id~:0,~roadDisruptionId~:~string~,~isDiversion~:true,~multiLineString~:\x7b~geography~:\x7b~coordinateSystemId~:0,~wellKnownText~:~string~,~wellKnownBinary~:~string~\x7d\x7d,~startDate~:~string~,~endDate~:~string~,~startTime~:~string~,~endTime~:~string~\x7d],~roadDisruptionImpactAreas~:[\x7b~id~:0,~roadDisruptionId~:~string~,~polygon~:\x7b~geography~:\x7b~coordinateSystemId~:0,~wellKnownText~:~string~,~wellKnownBinary~:~string~\x7d\x7d,~startDate~:~string~,~endDate~:~string~,~startTime~:~string~,~endTime~:~string~\x7d],~recurringSchedules~:[\x7b~startTime~:~string~,~endTime~:~string~\x7d]\x7d]\x7d,~application/xml~:\x7b~schema~:\x7b~$ref~:~#/components/schemas/ids-DisruptionGet200ApplicationXmlResponse~\x7d,~example~:~<ids-DisruptionGet200ApplicationXmlResponse> <id>string</id> <url>string</url> <point>string</point> <severity>string</severity> <ordinal>0</ordinal> <category>string</category> <subCategory>string</subCategory> <comments>string</comments> <currentUpdate>string</currentUpdate> <currentUpdateDateTime>string</currentUpdateDateTime> <corridorIds>string</corridorIds> <startDateTime>string</startDateTime> <endDateTime>string</endDateTime> <lastModifiedTime>string</lastModifiedTime> <levelOfInterest>string</levelOfInterest> <location>string</location> <status>string</status> <geography> <geography> <coordinateSystemId>0</coordinateSystemId> <wellKnownText>string</wellKnownText> <wellKnownBinary>string</wellKnownBinary> </geography> </geography> <geometry> <geography> <coordinateSystemId>0</coordinateSystemId> <wellKnownText>string</wellKnownText> <wellKnownBinary>string</wellKnownBinary> </geography> </geometry> <streets> <name>string</name> <closure>string</closure> <directions>string</directions> <segments> <toid>string</toid> <lineString>string</lineString> <sourceSystemId>0</sourceSystemId> <sourceSystemKey>string</sourceSystemKey> </segments> <sourceSystemId>0</sourceSystemId> <sourceSystemKey>string</sourceSystemKey> </streets> <isProvisional>true</isProvisional> <hasClosures>true</hasClosures> <linkText>string</linkText> <linkUrl>string</linkUrl> <roadProject> <projectId>string</projectId> <schemeName>string</schemeName> <projectName>string</projectName> <projectDescription>string</projectDescription> <projectPageUrl>string</projectPageUrl> <consultationPageUrl>string</consultationPageUrl> <consultationStartDate>string</consultationStartDate> <consultationEndDate>string</consultationEndDate> <constructionStartDate>string</constructionStartDate> <constructionEndDate>string</constructionEndDate> <boroughsBenefited>string</boroughsBenefited> <cycleSuperhighwayId>string</cycleSuperhighwayId> <phase>Unscoped</phase> <contactName>string</contactName> <contactEmail>string</contactEmail> <externalPageUrl>string</externalPageUrl> <projectSummaryPageUrl>string</projectSummaryPageUrl> </roadProject> <publishStartDate>string</publishStartDate> <publishEndDate>string</publishEndDate> <timeFrame>string</timeFrame> <roadDisruptionLines> <id>0</id> <roadDisruptionId>string</roadDisruptionId> <isDiversion>true</isDiversion> <multiLineString> <geography> <coordinateSystemId>0</coordinateSystemId> <wellKnownText>string</wellKnownText> <wellKnownBinary>string</wellKnownBinary> </geography> </multiLineString> <startDate>string</startDate> <endDate>string</endDate> <startTime>string</startTime> <endTime>string</endTime> </roadDisruptionLines> <roadDisruptionImpactAreas> <id>0</id> <roadDisruptionId>string</roadDisruptionId> <polygon> <geography> <coordinateSystemId>0</coordinateSystemId> <wellKnownText>string</wellKnownText> <wellKnownBinary>string</wellKnownBinary> </geography> </polygon> <startDate>string</startDate> <endDate>string</endDate> <startTime>string</startTime> <endTime>string</endTime> </roadDisruptionImpactAreas> <recurringSchedules> <startTime>string</startTime> <endTime>string</endTime> </recurringSchedules> </ids-DisruptionGet200ApplicationXmlResponse>~\x7d,~text/xml~:\x7b~schema~:\x7b~$ref~:~#/components/schemas/ids-DisruptionGet200TextXmlResponse~\x7d,~example~:~<ids-DisruptionGet200TextXmlResponse> <id>string</id> <url>string</url> <point>string</point> <severity>string</severity> <ordinal>0</ordinal> <category>string</category> <subCategory>string</subCategory> <comments>string</comments> <currentUpdate>string</currentUpdate> <currentUpdateDateTime>string</currentUpdateDateTime> <corridorIds>string</corridorIds> <startDateTime>string</startDateTime> <endDateTime>string</endDateTime> <lastModifiedTime>string</lastModifiedTime> <levelOfInterest>string</levelOfInterest> <location>string</location> <status>string</status> <geography> <geography> <coordinateSystemId>0</coordinateSystemId> <wellKnownText>string</wellKnownText> <wellKnownBinary>string</wellKnownBinary> </geography> </geography> <geometry> <geography> <coordinateSystemId>0</coordinateSystemId> <wellKnownText>string</wellKnownText> <wellKnownBinary>string</wellKnownBinary> </geography> </geometry> <streets> <name>string</name> <closure>string</closure> <directions>string</directions> <segments> <toid>string</toid> <lineString>string</lineString> <sourceSystemId>0</sourceSystemId> <sourceSystemKey>string</sourceSystemKey> </segments> <sourceSystemId>0</sourceSystemId> <sourceSystemKey>string</sourceSystemKey> </streets> <isProvisional>true</isProvisional> <hasClosures>true</hasClosures> <linkText>string</linkText> <linkUrl>string</linkUrl> <roadProject> <projectId>string</projectId> <schemeName>string</schemeName> <projectName>string</projectName> <projectDescription>string</projectDescription> <projectPageUrl>string</projectPageUrl> <consultationPageUrl>string</consultationPageUrl> <consultationStartDate>string</consultationStartDate> <consultationEndDate>string</consultationEndDate> <constructionStartDate>string</constructionStartDate> <constructionEndDate>string</constructionEndDate> <boroughsBenefited>string</boroughsBenefited> <cycleSuperhighwayId>string</cycleSuperhighwayId> <phase>Unscoped</phase> <contactName>string</contactName> <contactEmail>string</contactEmail> <externalPageUrl>string</externalPageUrl> <projectSummaryPageUrl>string</projectSummaryPageUrl> </roadProject> <publishStartDate>string</publishStartDate> <publishEndDate>string</publishEndDate> <timeFrame>string</timeFrame> <roadDisruptionLines> <id>0</id> <roadDisruptionId>string</roadDisruptionId> <isDiversion>true</isDiversion> <multiLineString> <geography> <coordinateSystemId>0</coordinateSystemId> <wellKnownText>string</wellKnownText> <wellKnownBinary>string</wellKnownBinary> </geography> </multiLineString> <startDate>string</startDate> <endDate>string</endDate> <startTime>string</startTime> <endTime>string</endTime> </roadDisruptionLines> <roadDisruptionImpactAreas> <id>0</id> <roadDisruptionId>string</roadDisruptionId> <polygon> <geography> <coordinateSystemId>0</coordinateSystemId> <wellKnownText>string</wellKnownText> <wellKnownBinary>string</wellKnownBinary> </geography> </polygon> <startDate>string</startDate> <endDate>string</endDate> <startTime>string</startTime> <endTime>string</endTime> </roadDisruptionImpactAreas> <recurringSchedules> <startTime>string</startTime> <endTime>string</endTime> </recurringSchedules> </ids-DisruptionGet200TextXmlResponse>~\x7d,~application/geo+json~:\x7b~schema~:\x7b~$ref~:~#/components/schemas/ids-DisruptionGet200ApplicationGeo-jsonResponse~\x7d,~example~:[\x7b~id~:~string~,~url~:~string~,~point~:~string~,~severity~:~string~,~ordinal~:0,~category~:~string~,~subCategory~:~string~,~comments~:~string~,~currentUpdate~:~string~,~currentUpdateDateTime~:~string~,~corridorIds~:[~string~],~startDateTime~:~string~,~endDateTime~:~string~,~lastModifiedTime~:~string~,~levelOfInterest~:~string~,~location~:~string~,~status~:~string~,~geography~:\x7b~geography~:\x7b~coordinateSystemId~:0,~wellKnownText~:~string~,~wellKnownBinary~:~string~\x7d\x7d,~geometry~:\x7b~geography~:\x7b~coordinateSystemId~:0,~wellKnownText~:~string~,~wellKnownBinary~:~string~\x7d\x7d,~streets~:[\x7b~name~:~string~,~closure~:~string~,~directions~:~string~,~segments~:[\x7b~toid~:~string~,~lineString~:~string~,~sourceSystemId~:0,~sourceSystemKey~:~string~\x7d],~sourceSystemId~:0,~sourceSystemKey~:~string~\x7d],~isProvisional~:true,~hasClosures~:true,~linkText~:~string~,~linkUrl~:~string~,~roadProject~:\x7b~projectId~:~string~,~schemeName~:~string~,~projectName~:~string~,~projectDescription~:~string~,~projectPageUrl~:~string~,~consultationPageUrl~:~string~,~consultationStartDate~:~string~,~consultationEndDate~:~string~,~constructionStartDate~:~string~,~constructionEndDate~:~string~,~boroughsBenefited~:[~string~],~cycleSuperhighwayId~:~string~,~phase~:~Unscoped~,~contactName~:~string~,~contactEmail~:~string~,~externalPageUrl~:~string~,~projectSummaryPageUrl~:~string~\x7d,~publishStartDate~:~string~,~publishEndDate~:~string~,~timeFrame~:~string~,~roadDisruptionLines~:[\x7b~id~:0,~roadDisruptionId~:~string~,~isDiversion~:true,~multiLineString~:\x7b~geography~:\x7b~coordinateSystemId~:0,~wellKnownText~:~string~,~wellKnownBinary~:~string~\x7d\x7d,~startDate~:~string~,~endDate~:~string~,~startTime~:~string~,~endTime~:~string~\x7d],~roadDisruptionImpactAreas~:[\x7b~id~:0,~roadDisruptionId~:~string~,~polygon~:\x7b~geography~:\x7b~coordinateSystemId~:0,~wellKnownText~:~string~,~wellKnownBinary~:~string~\x7d\x7d,~startDate~:~string~,~endDate~:~string~,~startTime~:~string~,~endTime~:~string~\x7d],~recurringSchedules~:[\x7b~startTime~:~string~,~endTime~:~string~\x7d]\x7d]\x7d\x7d\x7d\x7d\x7d\x7d,~/all/Street/Disruption~:\x7b~get~:\x7b~tags~:[~Road~],~summary~:~Gets a list of disrupted streets. If no date filters are provided, current disruptions are returned.~,~description~:~Gets a list of disrupted streets. If no date filters are provided, current disruptions are returned.~,~operationId~:~Road_DisruptedStreetsByQueryStartDateQueryEndDate~,~parameters~:[\x7b~name~:~startDate~,~in~:~query~,~description~:~Format - date-time (as date-time in RFC3339). Optional, the start time to filter on.~,~schema~:\x7b~type~:~string~\x7d,~example~:~2024-03-01~\x7d,\x7b~name~:~endDate~,~in~:~query~,~description~:~Format - date-time (as date-time in RFC3339). Optional, The end time to filter on.~,~schema~:\x7b~type~:~string~\x7d,~example~:~2024-03-31~\x7d],~responses~:\x7b~200~:\x7b~description~:~OK~,~content~:\x7b~application/json~:\x7b~schema~:\x7b~$ref~:~#/components/schemas/System-3~\x7d\x7d,~text/json~:\x7b~schema~:\x7b~$ref~:~#/components/schemas/System-3~\x7d\x7d,~application/xml~:\x7b~schema~:\x7b~$ref~:~#/components/schemas/System-3~\x7d,~example~:~<System-3 />~\x7d,~text/xml~:\x7b~schema~:\x7b~$ref~:~#/components/schemas/System-3~\x7d,~example~:~<System-3 />~\x7d\x7d\x7d\x7d\x7d\x7d,~/all/Disruption/\x7bdisruptionIds\x7d~:\x7b~get~:\x7b~tags~:[~Road~],~summary~:~Gets a list of active disruptions filtered by disruption Ids.~,~description~:~Gets a list of active disruptions filtered by disruption Ids.~,~operationId~:~Road_DisruptionByIdByPathDisruptionIdsQueryStripContent~,~parameters~:[\x7b~name~:~disruptionIds~,~in~:~path~,~description~:~Comma-separated list of disruption identifiers to filter by.~,~required~:true,~schema~:\x7b~type~:~string~\x7d,~example~:~TIMS-89632~\x7d,\x7b~name~:~stripContent~,~in~:~query~,~description~:~Optional, defaults to false. When true, removes every property/node except for id, point, severity, severityDescription, startDate, endDate, corridor details, location and comments.~,~schema~:\x7b~type~:~boolean~\x7d\x7d],~responses~:\x7b~200~:\x7b~description~:~OK~,~content~:\x7b~application/json~:\x7b~schema~:\x7b~$ref~:~#/components/schemas/Tfl-8~\x7d,~example~:\x7b~id~:~string~,~url~:~string~,~point~:~string~,~severity~:~string~,~ordinal~:0,~category~:~string~,~subCategory~:~string~,~comments~:~string~,~currentUpdate~:~string~,~currentUpdateDateTime~:~string~,~corridorIds~:[~string~],~startDateTime~:~string~,~endDateTime~:~string~,~lastModifiedTime~:~string~,~levelOfInterest~:~string~,~location~:~string~,~status~:~string~,~geography~:\x7b~geography~:\x7b~coordinateSystemId~:0,~wellKnownText~:~string~,~wellKnownBinary~:~string~\x7d\x7d,~geometry~:\x7b~geography~:\x7b~coordinateSystemId~:0,~wellKnownText~:~string~,~wellKnownBinary~:~string~\x7d\x7d,~streets~:[\x7b~name~:~string~,~closure~:~string~,~directions~:~string~,~segments~:[\x7b~toid~:~string~,~lineString~:~string~,~sourceSystemId~:0,~sourceSystemKey~:~string~\x7d],~sourceSystemId~:0,~sourceSystemKey~:~string~\x7d],~isProvisional~:true,~hasClosures~:true,~linkText~:~string~,~linkUrl~:~string~,~roadProject~:\x7b~projectId~:~string~,~schemeName~:~string~,~projectName~:~string~,~projectDescription~:~string~,~projectPageUrl~:~string~,~consultationPageUrl~:~string~,~consultationStartDate~:~string~,~consultationEndDate~:~string~,~constructionStartDate~:~string~,~constructionEndDate~:~string~,~boroughsBenefited~:[~string~],~cycleSuperhighwayId~:~string~,~phase~:~Unscoped~,~contactName~:~string~,~contactEmail~:~string~,~externalPageUrl~:~string~,~projectSummaryPageUrl~:~string~\x7d,~publishStartDate~:~string~,~publishEndDate~:~string~,~timeFrame~:~string~,~roadDisruptionLines~:[\x7b~id~:0,~roadDisruptionId~:~string~,~isDiversion~:true,~multiLineString~:\x7b~geography~:\x7b~coordinateSystemId~:0,~wellKnownText~:~string~,~wellKnownBinary~:~string~\x7d\x7d,~startDate~:~string~,~endDate~:~string~,~startTime~:~string~,~endTime~:~string~\x7d],~roadDisruptionImpactAreas~:[\x7b~id~:0,~roadDisruptionId~:~string~,~polygon~:\x7b~geography~:\x7b~coordinateSystemId~:0,~wellKnownText~:~string~,~wellKnownBinary~:~string~\x7d\x7d,~startDate~:~string~,~endDate~:~string~,~startTime~:~string~,~endTime~:~string~\x7d],~recurringSchedules~:[\x7b~startTime~:~string~,~endTime~:~string~\x7d]\x7d\x7d,~text/json~:\x7b~schema~:\x7b~$ref~:~#/components/schemas/Tfl-8~\x7d,~example~:\x7b~id~:~string~,~url~:~string~,~point~:~string~,~severity~:~string~,~ordinal~:0,~category~:~string~,~subCategory~:~string~,~comments~:~string~,~currentUpdate~:~string~,~currentUpdateDateTime~:~string~,~corridorIds~:[~string~],~startDateTime~:~string~,~endDateTime~:~string~,~lastModifiedTime~:~string~,~levelOfInterest~:~string~,~location~:~string~,~status~:~string~,~geography~:\x7b~geography~:\x7b~coordinateSystemId~:0,~wellKnownText~:~string~,~wellKnownBinary~:~string~\x7d\x7d,~geometry~:\x7b~geography~:\x7b~coordinateSystemId~:0,~wellKnownText~:~string~,~wellKnownBinary~:~string~\x7d\x7d,~streets~:[\x7b~name~:~string~,~closure~:~string~,~directions~:~string~,~segments~:[\x7b~toid~:~string~,~lineString~:~string~,~sourceSystemId~:0,~sourceSystemKey~:~string~\x7d],~sourceSystemId~:0,~sourceSystemKey~:~string~\x7d],~isProvisional~:true,~hasClosures~:true,~linkText~:~string~,~linkUrl~:~string~,~roadProject~:\x7b~projectId~:~string~,~schemeName~:~string~,~projectName~:~string~,~projectDescription~:~string~,~projectPageUrl~:~string~,~consultationPageUrl~:~string~,~consultationStartDate~:~string~,~consultationEndDate~:~string~,~constructionStartDate~:~string~,~constructionEndDate~:~string~,~boroughsBenefited~:[~string~],~cycleSuperhighwayId~:~string~,~phase~:~Unscoped~,~contactName~:~string~,~contactEmail~:~string~,~externalPageUrl~:~string~,~projectSummaryPageUrl~:~string~\x7d,~publishStartDate~:~string~,~publishEndDate~:~string~,~timeFrame~:~string~,~roadDisruptionLines~:[\x7b~id~:0,~roadDisruptionId~:~string~,~isDiversion~:true,~multiLineString~:\x7b~geography~:\x7b~coordinateSystemId~:0,~wellKnownText~:~string~,~wellKnownBinary~:~string~\x7d\x7d,~startDate~:~string~,~endDate~:~string~,~startTime~:~string~,~endTime~:~string~\x7d],~roadDisruptionImpactAreas~:[\x7b~id~:0,~roadDisruptionId~:~string~,~polygon~:\x7b~geography~:\x7b~coordinateSystemId~:0,~wellKnownText~:~string~,~wellKnownBinary~:~string~\x7d\x7d,~startDate~:~string~,~endDate~:~string~,~startTime~:~string~,~endTime~:~string~\x7d],~recurringSchedules~:[\x7b~startTime~:~string~,~endTime~:~string~\x7d]\x7d\x7d,~application/xml~:\x7b~schema~:\x7b~$ref~:~#/components/schemas/Tfl-8~\x7d,~example~:~<Tfl-8> <id>string</id> <url>string</url> <point>string</point> <severity>string</severity> <ordinal>0</ordinal> <category>string</category> <subCategory>string</subCategory> <comments>string</comments> <currentUpdate>string</currentUpdate> <currentUpdateDateTime>string</currentUpdateDateTime> <corridorIds>string</corridorIds> <startDateTime>string</startDateTime> <endDateTime>string</endDateTime> <lastModifiedTime>string</lastModifiedTime> <levelOfInterest>string</levelOfInterest> <location>string</location> <status>string</status> <geography> <geography> <coordinateSystemId>0</coordinateSystemId> <wellKnownText>string</wellKnownText> <wellKnownBinary>string</wellKnownBinary> </geography> </geography> <geometry> <geography> <coordinateSystemId>0</coordinateSystemId> <wellKnownText>string</wellKnownText> <wellKnownBinary>string</wellKnownBinary> </geography> </geometry> <streets> <name>string</name> <closure>string</closure> <directions>string</directions> <segments> <toid>string</toid> <lineString>string</lineString> <sourceSystemId>0</sourceSystemId> <sourceSystemKey>string</sourceSystemKey> </segments> <sourceSystemId>0</sourceSystemId> <sourceSystemKey>string</sourceSystemKey> </streets> <isProvisional>true</isProvisional> <hasClosures>true</hasClosures> <linkText>string</linkText> <linkUrl>string</linkUrl> <roadProject> <projectId>string</projectId> <schemeName>string</schemeName> <projectName>string</projectName> <projectDescription>string</projectDescription> <projectPageUrl>string</projectPageUrl> <consultationPageUrl>string</consultationPageUrl> <consultationStartDate>string</consultationStartDate> <consultationEndDate>string</consultationEndDate> <constructionStartDate>string</constructionStartDate> <constructionEndDate>string</constructionEndDate> <boroughsBenefited>string</boroughsBenefited> <cycleSuperhighwayId>string</cycleSuperhighwayId> <phase>Unscoped</phase> <contactName>string</contactName> <contactEmail>string</contactEmail> <externalPageUrl>string</externalPageUrl> <projectSummaryPageUrl>string</projectSummaryPageUrl> </roadProject> <publishStartDate>string</publishStartDate> <publishEndDate>string</publishEndDate> <timeFrame>string</timeFrame> <roadDisruptionLines> <id>0</id> <roadDisruptionId>string</roadDisruptionId> <isDiversion>true</isDiversion> <multiLineString> <geography> <coordinateSystemId>0</coordinateSystemId> <wellKnownText>string</wellKnownText> <wellKnownBinary>string</wellKnownBinary> </geography> </multiLineString> <startDate>string</startDate> <endDate>string</endDate> <startTime>string</startTime> <endTime>string</endTime> </roadDisruptionLines> <roadDisruptionImpactAreas> <id>0</id> <roadDisruptionId>string</roadDisruptionId> <polygon> <geography> <coordinateSystemId>0</coordinateSystemId> <wellKnownText>string</wellKnownText> <wellKnownBinary>string</wellKnownBinary> </geography> </polygon> <startDate>string</startDate> <endDate>string</endDate> <startTime>string</startTime> <endTime>string</endTime> </roadDisruptionImpactAreas> <recurringSchedules> <startTime>string</startTime> <endTime>string</endTime> </recurringSchedules> </Tfl-8>~\x7d,~text/xml~:\x7b~schema~:\x7b~$ref~:~#/components/schemas/Tfl-8~\x7d,~example~:~<Tfl-8> <id>string</id> <url>string</url> <point>string</point> <severity>string</severity> <ordinal>0</ordinal> <category>string</category> <subCategory>string</subCategory> <comments>string</comments> <currentUpdate>string</currentUpdate> <currentUpdateDateTime>string</currentUpdateDateTime> <corridorIds>string</corridorIds> <startDateTime>string</startDateTime> <endDateTime>string</endDateTime> <lastModifiedTime>string</lastModifiedTime> <levelOfInterest>string</levelOfInterest> <location>string</location> <status>string</status> <geography> <geography> <coordinateSystemId>0</coordinateSystemId> <wellKnownText>string</wellKnownText> <wellKnownBinary>string</wellKnownBinary> </geography> </geography> <geometry> <geography> <coordinateSystemId>0</coordinateSystemId> <wellKnownText>string</wellKnownText> <wellKnownBinary>string</wellKnownBinary> </geography> </geometry> <streets> <name>string</name> <closure>string</closure> <directions>string</directions> <segments> <toid>string</toid> <lineString>string</lineString> <sourceSystemId>0</sourceSystemId> <sourceSystemKey>string</sourceSystemKey> </segments> <sourceSystemId>0</sourceSystemId> <sourceSystemKey>string</sourceSystemKey> </streets> <isProvisional>true</isProvisional> <hasClosures>true</hasClosures> <linkText>string</linkText> <linkUrl>string</linkUrl> <roadProject> <projectId>string</projectId> <schemeName>string</schemeName> <projectName>string</projectName> <projectDescription>string</projectDescription> <projectPageUrl>string</projectPageUrl> <consultationPageUrl>string</consultationPageUrl> <consultationStartDate>string</consultationStartDate> <consultationEndDate>string</consultationEndDate> <constructionStartDate>string</constructionStartDate> <constructionEndDate>string</constructionEndDate> <boroughsBenefited>string</boroughsBenefited> <cycleSuperhighwayId>string</cycleSuperhighwayId> <phase>Unscoped</phase> <contactName>string</contactName> <contactEmail>string</contactEmail> <externalPageUrl>string</externalPageUrl> <projectSummaryPageUrl>string</projectSummaryPageUrl> </roadProject> <publishStartDate>string</publishStartDate> <publishEndDate>string</publishEndDate> <timeFrame>string</timeFrame> <roadDisruptionLines> <id>0</id> <roadDisruptionId>string</roadDisruptionId> <isDiversion>true</isDiversion> <multiLineString> <geography> <coordinateSystemId>0</coordinateSystemId> <wellKnownText>string</wellKnownText> <wellKnownBinary>string</wellKnownBinary> </geography> </multiLineString> <startDate>string</startDate> <endDate>string</endDate> <startTime>string</startTime> <endTime>string</endTime> </roadDisruptionLines> <roadDisruptionImpactAreas> <id>0</id> <roadDisruptionId>string</roadDisruptionId> <polygon> <geography> <coordinateSystemId>0</coordinateSystemId> <wellKnownText>string</wellKnownText> <wellKnownBinary>string</wellKnownBinary> </geography> </polygon> <startDate>string</startDate> <endDate>string</endDate> <startTime>string</startTime> <endTime>string</endTime> </roadDisruptionImpactAreas> <recurringSchedules> <startTime>string</startTime> <endTime>string</endTime> </recurringSchedules> </Tfl-8>~\x7d,~application/geo+json~:\x7b~schema~:\x7b~$ref~:~#/components/schemas/Tfl-8~\x7d,~example~:\x7b~id~:~string~,~url~:~string~,~point~:~string~,~severity~:~string~,~ordinal~:0,~category~:~string~,~subCategory~:~string~,~comments~:~string~,~currentUpdate~:~string~,~currentUpdateDateTime~:~string~,~corridorIds~:[~string~],~startDateTime~:~string~,~endDateTime~:~string~,~lastModifiedTime~:~string~,~levelOfInterest~:~string~,~location~:~string~,~status~:~string~,~geography~:\x7b~geography~:\x7b~coordinateSystemId~:0,~wellKnownText~:~string~,~wellKnownBinary~:~string~\x7d\x7d,~geometry~:\x7b~geography~:\x7b~coordinateSystemId~:0,~wellKnownText~:~string~,~wellKnownBinary~:~string~\x7d\x7d,~streets~:[\x7b~name~:~string~,~closure~:~string~,~directions~:~string~,~segments~:[\x7b~toid~:~string~,~lineString~:~string~,~sourceSystemId~:0,~sourceSystemKey~:~string~\x7d],~sourceSystemId~:0,~sourceSystemKey~:~string~\x7d],~isProvisional~:true,~hasClosures~:true,~linkText~:~string~,~linkUrl~:~string~,~roadProject~:\x7b~projectId~:~string~,~schemeName~:~string~,~projectName~:~string~,~projectDescription~:~string~,~projectPageUrl~:~string~,~consultationPageUrl~:~string~,~consultationStartDate~:~string~,~consultationEndDate~:~string~,~constructionStartDate~:~string~,~constructionEndDate~:~string~,~boroughsBenefited~:[~string~],~cycleSuperhighwayId~:~string~,~phase~:~Unscoped~,~contactName~:~string~,~contactEmail~:~string~,~externalPageUrl~:~string~,~projectSummaryPageUrl~:~string~\x7d,~publishStartDate~:~string~,~publishEndDate~:~string~,~timeFrame~:~string~,~roadDisruptionLines~:[\x7b~id~:0,~roadDisruptionId~:~string~,~isDiversion~:true,~multiLineString~:\x7b~geography~:\x7b~coordinateSystemId~:0,~wellKnownText~:~string~,~wellKnownBinary~:~string~\x7d\x7d,~startDate~:~string~,~endDate~:~string~,~startTime~:~string~,~endTime~:~string~\x7d],~roadDisruptionImpactAreas~:[\x7b~id~:0,~roadDisruptionId~:~string~,~polygon~:\x7b~geography~:\x7b~coordinateSystemId~:0,~wellKnownText~:~string~,~wellKnownBinary~:~string~\x7d\x7d,~startDate~:~string~,~endDate~:~string~,~startTime~:~string~,~endTime~:~string~\x7d],~recurringSchedules~:[\x7b~startTime~:~string~,~endTime~:~string~\x7d]\x7d\x7d\x7d\x7d\x7d\x7d\x7d,~/Meta/Categories~:\x7b~get~:\x7b~tags~:[~Road~],~summary~:~Gets a list of valid RoadDisruption categories~,~description~:~Gets a list of valid RoadDisruption categories~,~operationId~:~Road_MetaCategories~,~responses~:\x7b~200~:\x7b~description~:~OK~,~content~:\x7b~application/json~:\x7b~schema~:\x7b~$ref~:~#/components/schemas/MetaCategoriesGet200ApplicationJsonResponse~\x7d,~example~:[~string~]\x7d,~text/json~:\x7b~schema~:\x7b~$ref~:~#/components/schemas/MetaCategoriesGet200TextJsonResponse~\x7d,~example~:[~string~]\x7d,~application/xml~:\x7b~schema~:\x7b~$ref~:~#/components/schemas/MetaCategoriesGet200ApplicationXmlResponse~\x7d,~example~:~<MetaCategoriesGet200ApplicationXmlResponse>string</MetaCategoriesGet200ApplicationXmlResponse>~\x7d,~text/xml~:\x7b~schema~:\x7b~$ref~:~#/components/schemas/MetaCategoriesGet200TextXmlResponse~\x7d,~example~:~<MetaCategoriesGet200TextXmlResponse>string</MetaCategoriesGet200TextXmlResponse>~\x7d\x7d\x7d\x7d\x7d\x7d,~/Meta/Severities~:\x7b~get~:\x7b~tags~:[~Road~],~summary~:~Gets a list of valid RoadDisruption severity codes~,~description~:~Gets a list of valid RoadDisruption severity codes~,~operationId~:~Road_MetaSeverities~,~responses~:\x7b~200~:\x7b~description~:~OK~,~content~:\x7b~application/json~:\x7b~schema~:\x7b~$ref~:~#/components/schemas/MetaSeveritiesGet200ApplicationJsonResponse~\x7d,~example~:[\x7b~modeName~:~string~,~severityLevel~:0,~description~:~string~\x7d]\x7d,~text/json~:\x7b~schema~:\x7b~$ref~:~#/components/schemas/MetaSeveritiesGet200TextJsonResponse~\x7d,~example~:[\x7b~modeName~:~string~,~severityLevel~:0,~description~:~string~\x7d]\x7d,~application/xml~:\x7b~schema~:\x7b~$ref~:~#/components/schemas/MetaSeveritiesGet200ApplicationXmlResponse~\x7d,~example~:~<MetaSeveritiesGet200ApplicationXmlResponse> <modeName>string</modeName> <severityLevel>0</severityLevel> <description>string</description> </MetaSeveritiesGet200ApplicationXmlResponse>~\x7d,~text/xml~:\x7b~schema~:\x7b~$ref~:~#/components/schemas/MetaSeveritiesGet200TextXmlResponse~\x7d,~example~:~<MetaSeveritiesGet200TextXmlResponse> <modeName>string</modeName> <severityLevel>0</severityLevel> <description>string</description> </MetaSeveritiesGet200TextXmlResponse>~\x7d\x7d\x7d\x7d\x7d\x7d\x7d,~components~:\x7b~schemas~:\x7b~Tfl~:\x7b~type~:~object~,~properties~:\x7b~id~:\x7b~type~:~string~,~description~:~The Id of the Corridor e.g. \\~A406\\~~\x7d,~displayName~:\x7b~type~:~string~,~description~:~The display name of the Corridor e.g. \\~North Circular (A406)\\~. This\\r\\n            may be identical to the Id.~\x7d,~group~:\x7b~type~:~string~,~description~:~The group name of the Corridor e.g. \\~Central London\\~. Most corridors are not grouped, in which case this field can be null.~\x7d,~statusSeverity~:\x7b~type~:~string~,~description~:~Standard multi-mode status severity code~\x7d,~statusSeverityDescription~:\x7b~type~:~string~,~description~:~Description of the status severity as applied to RoadCorridors~\x7d,~bounds~:\x7b~type~:~string~,~description~:~The Bounds of the Corridor, given by the south-east followed by the north-west co-ordinate\\r\\n            pair in geoJSON format e.g. \\~[[-1.241531,51.242151],[1.641223,53.765721]]\\~~\x7d,~envelope~:\x7b~type~:~string~,~description~:~The Envelope of the Corridor, given by the corner co-ordinates of a rectangular (four-point) polygon\\r\\n            in geoJSON format e.g. \\~[[-1.241531,51.242151],[-1.241531,53.765721],[1.641223,53.765721],[1.641223,51.242151]]\\~~\x7d,~statusAggregationStartDate~:\x7b~type~:~string~,~description~:~The start of the period over which status has been aggregated, or null if this is the current corridor status.~,~format~:~date-time~\x7d,~statusAggregationEndDate~:\x7b~type~:~string~,~description~:~The end of the period over which status has been aggregated, or null if this is the current corridor status.~,~format~:~date-time~\x7d,~url~:\x7b~type~:~string~,~description~:~URL to retrieve this Corridor.~\x7d\x7d\x7d,~System~:\x7b~type~:~object~,~properties~:\x7b~coordinateSystemId~:\x7b~type~:~integer~,~format~:~int32~\x7d,~wellKnownText~:\x7b~type~:~string~\x7d,~wellKnownBinary~:\x7b~type~:~string~,~format~:~byte~\x7d\x7d\x7d,~System-2~:\x7b~type~:~object~,~properties~:\x7b~geography~:\x7b~$ref~:~#/components/schemas/System~\x7d\x7d\x7d,~Tfl-2~:\x7b~type~:~object~,~properties~:\x7b~toid~:\x7b~type~:~string~,~description~:~A 16 digit unique integer identifying a OS ITN (Ordnance Survey Integrated Transport Network) road link.~\x7d,~lineString~:\x7b~type~:~string~,~description~:~geoJSON formatted LineString containing two latitude/longitude (WGS84) pairs that identify the start and end points of the street segment.~\x7d,~sourceSystemId~:\x7b~type~:~integer~,~description~:~The ID from the source system of the disruption that this street belongs to.~,~format~:~int64~\x7d,~sourceSystemKey~:\x7b~type~:~string~,~description~:~The key of the source system of the disruption that this street belongs to.~\x7d\x7d\x7d,~Tfl-3~:\x7b~type~:~object~,~properties~:\x7b~name~:\x7b~type~:~string~,~description~:~Street name~\x7d,~closure~:\x7b~type~:~string~,~description~:~Type of road closure. Some example values:\\r\\n            Open = road is open, not blocked, not closed, not restricted. It maybe that the disruption has been moved out of the carriageway.\\r\\n            Partial Closure = road is partially blocked, closed or restricted. \\r\\n            Full Closure = road is fully blocked or closed.~\x7d,~directions~:\x7b~type~:~string~,~description~:~The direction of the disruption on the street. Some example values:\\r\\n            All Directions\\r\\n            All Approaches\\r\\n            Clockwise\\r\\n            Anti-Clockwise\\r\\n            Northbound\\r\\n            Eastbound\\r\\n            Southbound\\r\\n            Westbound\\r\\n            Both Directions~\x7d,~segments~:\x7b~type~:~array~,~items~:\x7b~$ref~:~#/components/schemas/Tfl-2~\x7d,~description~:~Geographic description of the sections of this street that are affected.~\x7d,~sourceSystemId~:\x7b~type~:~integer~,~description~:~The ID from the source system of the disruption that this street belongs to.~,~format~:~int64~\x7d,~sourceSystemKey~:\x7b~type~:~string~,~description~:~The key of the source system of the disruption that this street belongs to.~\x7d\x7d\x7d,~Tfl-4~:\x7b~type~:~object~,~properties~:\x7b~projectId~:\x7b~type~:~string~\x7d,~schemeName~:\x7b~type~:~string~\x7d,~projectName~:\x7b~type~:~string~\x7d,~projectDescription~:\x7b~type~:~string~\x7d,~projectPageUrl~:\x7b~type~:~string~\x7d,~consultationPageUrl~:\x7b~type~:~string~\x7d,~consultationStartDate~:\x7b~type~:~string~,~format~:~date-time~\x7d,~consultationEndDate~:\x7b~type~:~string~,~format~:~date-time~\x7d,~constructionStartDate~:\x7b~type~:~string~,~format~:~date-time~\x7d,~constructionEndDate~:\x7b~type~:~string~,~format~:~date-time~\x7d,~boroughsBenefited~:\x7b~type~:~array~,~items~:\x7b~type~:~string~\x7d\x7d,~cycleSuperhighwayId~:\x7b~type~:~string~\x7d,~phase~:\x7b~enum~:[~Unscoped~,~Concept~,~ConsultationEnded~,~Consultation~,~Construction~,~Complete~],~type~:~string~\x7d,~contactName~:\x7b~type~:~string~\x7d,~contactEmail~:\x7b~type~:~string~\x7d,~externalPageUrl~:\x7b~type~:~string~\x7d,~projectSummaryPageUrl~:\x7b~type~:~string~\x7d\x7d\x7d,~Tfl-5~:\x7b~type~:~object~,~properties~:\x7b~id~:\x7b~type~:~integer~,~format~:~int32~\x7d,~roadDisruptionId~:\x7b~type~:~string~\x7d,~isDiversion~:\x7b~type~:~boolean~\x7d,~multiLineString~:\x7b~$ref~:~#/components/schemas/System-2~\x7d,~startDate~:\x7b~type~:~string~,~format~:~date-time~\x7d,~endDate~:\x7b~type~:~string~,~format~:~date-time~\x7d,~startTime~:\x7b~type~:~string~\x7d,~endTime~:\x7b~type~:~string~\x7d\x7d\x7d,~Tfl-6~:\x7b~type~:~object~,~properties~:\x7b~id~:\x7b~type~:~integer~,~format~:~int32~\x7d,~roadDisruptionId~:\x7b~type~:~string~\x7d,~polygon~:\x7b~$ref~:~#/components/schemas/System-2~\x7d,~startDate~:\x7b~type~:~string~,~format~:~date-time~\x7d,~endDate~:\x7b~type~:~string~,~format~:~date-time~\x7d,~startTime~:\x7b~type~:~string~\x7d,~endTime~:\x7b~type~:~string~\x7d\x7d\x7d,~Tfl-7~:\x7b~type~:~object~,~properties~:\x7b~startTime~:\x7b~type~:~string~,~format~:~date-time~\x7d,~endTime~:\x7b~type~:~string~,~format~:~date-time~\x7d\x7d\x7d,~Tfl-8~:\x7b~type~:~object~,~properties~:\x7b~id~:\x7b~type~:~string~,~description~:~Unique identifier for the road disruption~\x7d,~url~:\x7b~type~:~string~,~description~:~URL to retrieve this road disruption~\x7d,~point~:\x7b~type~:~string~,~description~:~Latitude and longitude (WGS84) of the centroid of the disruption, stored in a geoJSON-formatted string.~\x7d,~severity~:\x7b~type~:~string~,~description~:~A description of the severity of the disruption.~\x7d,~ordinal~:\x7b~type~:~integer~,~description~:~An ordinal of the disruption based on severity, level of interest and corridor.~,~format~:~int32~\x7d,~category~:\x7b~type~:~string~,~description~:~Describes the nature of disruption e.g. Traffic Incidents, Works~\x7d,~subCategory~:\x7b~type~:~string~,~description~:~Describes the sub-category of disruption e.g. Collapsed Manhole, Abnormal Load~\x7d,~comments~:\x7b~type~:~string~,~description~:~Full text of comments describing the disruption, including details of any road closures and diversions, where appropriate.~\x7d,~currentUpdate~:\x7b~type~:~string~,~description~:~Text of the most recent update from the LSTCC on the state of the\\r\\n             disruption, including the current traffic impact and any advice to\\r\\n             road users.~\x7d,~currentUpdateDateTime~:\x7b~type~:~string~,~description~:~The time when the last CurrentUpdate description was recorded, \\r\\n            or null if no CurrentUpdate has been applied.~,~format~:~date-time~\x7d,~corridorIds~:\x7b~type~:~array~,~items~:\x7b~type~:~string~\x7d,~description~:~The Ids of affected corridors, if any.~\x7d,~startDateTime~:\x7b~type~:~string~,~description~:~The date and time which the disruption started. For a planned disruption (i.e. planned road works) this date will be in the future.\\r\\n            For unplanned disruptions, this will default to the date on which the disruption was first recorded, but may be adjusted by the operator.~,~format~:~date-time~\x7d,~endDateTime~:\x7b~type~:~string~,~description~:~The date and time on which the disruption ended. For planned disruptions, this date will have a valid value. For unplanned \\r\\n            disruptions in progress, this field will be omitted.~,~format~:~date-time~\x7d,~lastModifiedTime~:\x7b~type~:~string~,~description~:~The date and time on which the disruption was last modified in the system. This information can reliably be used by a developer to quickly\\r\\n            compare two instances of the same disruption to determine if it has been changed.~,~format~:~date-time~\x7d,~levelOfInterest~:\x7b~type~:~string~,~description~:~This describes the level of potential impact on traffic operations of the disruption. \\r\\n            High = e.g. a one-off disruption on a major or high profile route which will require a high level of operational attention \\r\\n            Medium = This is the default value \\r\\n            Low = e.g. a frequently occurring disruption which is well known~\x7d,~location~:\x7b~type~:~string~,~description~:~Main road name / number (borough) or preset area name where the disruption is located. This might be useful for a map popup where space is limited.~\x7d,~status~:\x7b~type~:~string~,~description~:~This describes the status of the disruption.  \\r\\n            Active = currently in progress \\r\\n            Active Long Term = currently in progress and long term\\r\\n            Scheduled = scheduled to start within the next 180 days\\r\\n            Recurring Works = planned maintenance works that follow a regular routine or pattern and whose next occurrence is to start within the next 180 days.\\r\\n            Recently Cleared = recently cleared in the last 24 hours\\r\\n            Note that the status of Scheduled or Recurring Works disruptions will change to Active when they start, and will change status again when they end.~\x7d,~geography~:\x7b~$ref~:~#/components/schemas/System-2~\x7d,~geometry~:\x7b~$ref~:~#/components/schemas/System-2~\x7d,~streets~:\x7b~type~:~array~,~items~:\x7b~$ref~:~#/components/schemas/Tfl-3~\x7d,~description~:~A collection of zero or more streets affected by the disruption.~\x7d,~isProvisional~:\x7b~type~:~boolean~,~description~:~True if the disruption is planned on a future date that is open to change~\x7d,~hasClosures~:\x7b~type~:~boolean~,~description~:~True if any of the affected Streets have a \\~Full Closure\\~ status, false otherwise. A RoadDisruption that has HasClosures is considered a \\r\\n            Severe or Serious disruption for severity filtering purposes.~\x7d,~linkText~:\x7b~type~:~string~,~description~:~The text of any associated link~\x7d,~linkUrl~:\x7b~type~:~string~,~description~:~The url of any associated link~\x7d,~roadProject~:\x7b~$ref~:~#/components/schemas/Tfl-4~\x7d,~publishStartDate~:\x7b~type~:~string~,~description~:~TDM Additional properties~,~format~:~date-time~\x7d,~publishEndDate~:\x7b~type~:~string~,~format~:~date-time~\x7d,~timeFrame~:\x7b~type~:~string~\x7d,~roadDisruptionLines~:\x7b~type~:~array~,~items~:\x7b~$ref~:~#/components/schemas/Tfl-5~\x7d\x7d,~roadDisruptionImpactAreas~:\x7b~type~:~array~,~items~:\x7b~$ref~:~#/components/schemas/Tfl-6~\x7d\x7d,~recurringSchedules~:\x7b~type~:~array~,~items~:\x7b~$ref~:~#/components/schemas/Tfl-7~\x7d\x7d\x7d\x7d,~System-3~:\x7b~type~:~object~\x7d,~Tfl-9~:\x7b~type~:~object~,~properties~:\x7b~modeName~:\x7b~type~:~string~\x7d,~severityLevel~:\x7b~type~:~integer~,~format~:~int32~\x7d,~description~:\x7b~type~:~string~\x7d\x7d\x7d,~Get200ApplicationJsonResponse~:\x7b~type~:~array~,~items~:\x7b~$ref~:~#/components/schemas/Tfl~\x7d\x7d,~Get200TextJsonResponse~:\x7b~type~:~array~,~items~:\x7b~$ref~:~#/components/schemas/Tfl~\x7d\x7d,~Get200ApplicationXmlResponse~:\x7b~type~:~array~,~items~:\x7b~$ref~:~#/components/schemas/Tfl~\x7d\x7d,~Get200TextXmlResponse~:\x7b~type~:~array~,~items~:\x7b~$ref~:~#/components/schemas/Tfl~\x7d\x7d,~ids-Get200ApplicationJsonResponse~:\x7b~type~:~array~,~items~:\x7b~$ref~:~#/components/schemas/Tfl~\x7d\x7d,~ids-Get200TextJsonResponse~:\x7b~type~:~array~,~items~:\x7b~$ref~:~#/components/schemas/Tfl~\x7d\x7d,~ids-Get200ApplicationXmlResponse~:\x7b~type~:~array~,~items~:\x7b~$ref~:~#/components/schemas/Tfl~\x7d\x7d,~ids-Get200TextXmlResponse~:\x7b~type~:~array~,~items~:\x7b~$ref~:~#/components/schemas/Tfl~\x7d\x7d,~ids-StatusGet200ApplicationJsonResponse~:\x7b~type~:~array~,~items~:\x7b~$ref~:~#/components/schemas/Tfl~\x7d\x7d,~ids-StatusGet200TextJsonResponse~:\x7b~type~:~array~,~items~:\x7b~$ref~:~#/components/schemas/Tfl~\x7d\x7d,~ids-StatusGet200ApplicationXmlResponse~:\x7b~type~:~array~,~items~:\x7b~$ref~:~#/components/schemas/Tfl~\x7d\x7d,~ids-StatusGet200TextXmlResponse~:\x7b~type~:~array~,~items~:\x7b~$ref~:~#/components/schemas/Tfl~\x7d\x7d,~ids-DisruptionGet200ApplicationJsonResponse~:\x7b~type~:~array~,~items~:\x7b~$ref~:~#/components/schemas/Tfl-8~\x7d\x7d,~ids-DisruptionGet200TextJsonResponse~:\x7b~type~:~array~,~items~:\x7b~$ref~:~#/components/schemas/Tfl-8~\x7d\x7d,~ids-DisruptionGet200ApplicationXmlResponse~:\x7b~type~:~array~,~items~:\x7b~$ref~:~#/components/schemas/Tfl-8~\x7d\x7d,~ids-DisruptionGet200TextXmlResponse~:\x7b~type~:~array~,~items~:\x7b~$ref~:~#/components/schemas/Tfl-8~\x7d\x7d,~ids-DisruptionGet200ApplicationGeo-jsonResponse~:\x7b~type~:~array~,~items~:\x7b~$ref~:~#/components/schemas/Tfl-8~\x7d\x7d,~MetaCategoriesGet200ApplicationJsonResponse~:\x7b~type~:~array~,~items~:\x7b~type~:~string~\x7d\x7d,~MetaCategoriesGet200TextJsonResponse~:\x7b~type~:~array~,~items~:\x7b~type~:~string~\x7d\x7d,~MetaCategoriesGet200ApplicationXmlResponse~:\x7b~type~:~array~,~items~:\x7b~type~:~string~\x7d\x7d,~MetaCategoriesGet200TextXmlResponse~:\x7b~type~:~array~,~items~:\x7b~type~:~string~\x7d\x7d,~MetaSeveritiesGet200ApplicationJsonResponse~:\x7b~type~:~array~,~items~:\x7b~$ref~:~#/components/schemas/Tfl-9~\x7d\x7d,~MetaSeveritiesGet200TextJsonResponse~:\x7b~type~:~array~,~items~:\x7b~$ref~:~#/components/schemas/Tfl-9~\x7d\x7d,~MetaSeveritiesGet200ApplicationXmlResponse~:\x7b~type~:~array~,~items~:\x7b~$ref~:~#/components/schemas/Tfl-9~\x7d\x7d,~MetaSeveritiesGet200TextXmlResponse~:\x7b~type~:~array~,~items~:\x7b~$ref~:~#/components/schemas/Tfl-9~\x7d\x7d\x7d,~securitySchemes~:\x7b~apiKeyHeader~:\x7b~type~:~apiKey~,~name~:~app_key~,~in~:~header~\x7d,~apiKeyQuery~:\x7b~type~:~apiKey~,~name~:~app_key~,~in~:~query~\x7d\x7d\x7d,~security~:[\x7b~apiKeyHeader~:[]\x7d,\x7b~apiKeyQuery~:[]\x7d]\x7d"),
  ("Search",
   "\x7b~openapi~:~3.0.1~,~info~:\x7b~title~:~Search~,~description~:~APIs relating to Search and similar services~,~version~:~1.0~\x7d,~servers~:[\x7b~url~:~https://api.tfl.gov.uk/Search~\x7d],~paths~:\x7b~/~:\x7b~get~:\x7b~tags~:[~Search~],~summary~:~Search the site for occurrences of the query string. The maximum number of results returned is equal to the maximum page size of 100. To return subsequent pages, use the paginated overload.~,~description~:~Search the site for occurrences of the query string. The maximum number of results returned is equal to the maximum page size of 100. To return subsequent pages, use the paginated overload.~,~operationId~:~Search_GetByQueryQuery~,~parameters~:[\x7b~name~:~query~,~in~:~query~,~description~:~The search query~,~required~:true,~schema~:\x7b~type~:~string~\x7d,~example~:~Southwark~\x7d],~responses~:\x7b~200~:\x7b~description~:~OK~,~content~:\x7b~application/json~:\x7b~schema~:\x7b~$ref~:~#/components/schemas/Tfl-2~\x7d,~example~:\x7b~query~:~string~,~from~:0,~page~:0,~pageSize~:0,~provider~:~string~,~total~:0,~matches~:[\x7b~id~:~string~,~url~:~string~,~name~:~string~,~lat~:0,~lon~:0\x7d],~maxScore~:0\x7d\x7d,~text/json~:\x7b~schema~:\x7b~$ref~:~#/components/schemas/Tfl-2~\x7d,~example~:\x7b~query~:~string~,~from~:0,~page~:0,~pageSize~:0,~provider~:~string~,~total~:0,~matches~:[\x7b~id~:~string~,~url~:~string~,~name~:~string~,~lat~:0,~lon~:0\x7d],~maxScore~:0\x7d\x7d,~application/xml~:\x7b~schema~:\x7b~$ref~:~#/components/schemas/Tfl-2~\x7d,~example~:~<Tfl-2> <query>string</query> <from>0</from> <page>0</page> <pageSize>0</pageSize> <provider>string</provider> <total>0</total> <matches> <id>string</id> <url>string</url> <name>string</name> <lat>0</lat> <lon>0</lon> </matches> <maxScore>0</maxScore> </Tfl-2>~\x7d,~text/xml~:\x7b~schema~:\x7b~$ref~:~#/components/schemas/Tfl-2~\x7d,~example~:~<Tfl-2> <query>string</query> <from>0</from> <page>0</page> <pageSize>0</pageSize> <provider>string</provider> <total>0</total> <matches> <id>string</id> <url>string</url> <name>string</name> <lat>0</lat> <lon>0</lon> </matches> <maxScore>0</maxScore> </Tfl-2>~\x7d\x7d\x7d\x7d\x7d\x7d,~/BusSchedules~:\x7b~get~:\x7b~tags~:[~Search~],~summary~:~Searches the bus schedules folder on S3 for a given bus number.~,~description~:~Searches the bus schedules folder on S3 for a given bus number.~,~operationId~:~Search_BusSchedulesByQueryQuery~,~parameters~:[\x7b~name~:~query~,~in~:~query~,~description~:~The search query~,~required~:true,~schema~:\x7b~type~:~string~\x7d,~example~:~Southwark~\x7d],~responses~:\x7b~200~:\x7b~description~:~OK~,~content~:\x7b~application/json~:\x7b~schema~:\x7b~$ref~:~#/components/schemas/Tfl-2~\x7d,~example~:\x7b~query~:~string~,~from~:0,~page~:0,~pageSize~:0,~provider~:~string~,~total~:0,~matches~:[\x7b~id~:~string~,~url~:~string~,~name~:~string~,~lat~:0,~lon~:0\x7d],~maxScore~:0\x7d\x7d,~text/json~:\x7b~schema~:\x7b~$ref~:~#/components/schemas/Tfl-2~\x7d,~example~:\x7b~query~:~string~,~from~:0,~page~:0,~pageSize~:0,~provider~:~string~,~total~:0,~matches~:[\x7b~id~:~string~,~url~:~string~,~name~:~string~,~lat~:0,~lon~:0\x7d],~maxScore~:0\x7d\x7d,~application/xml~:\x7b~schema~:\x7b~$ref~:~#/components/schemas/Tfl-2~\x7d,~example~:~<Tfl-2> <query>string</query> <from>0</from> <page>0</page> <pageSize>0</pageSize> <provider>string</provider> <total>0</total> <matches> <id>string</id> <url>string</url> <name>string</name> <lat>0</lat> <lon>0</lon> </matches> <maxScore>0</maxScore> </Tfl-2>~\x7d,~text/xml~:\x7b~schema~:\x7b~$ref~:~#/components/schemas/Tfl-2~\x7d,~example~:~<Tfl-2> <query>string</query> <from>0</from> <page>0</page> <pageSize>0</pageSize> <provider>string</provider> <total>0</total> <matches> <id>string</id> <url>string</url> <name>string</name> <lat>0</lat> <lon>0</lon> </matches> <maxScore>0</maxScore> </Tfl-2>~\x7d\x7d\x7d\x7d\x7d\x7d,~/Meta/SearchProviders~:\x7b~get~:\x7b~tags~:[~Search~],~summary~:~Gets the available searchProvider names.~,~description~:~Gets the available searchProvider names.~,~operationId~:~Search_MetaSearchProviders~,~responses~:\x7b~200~:\x7b~description~:~OK~,~content~:\x7b~application/json~:\x7b~schema~:\x7b~$ref~:~#/components/schemas/MetaSearchProvidersGet200ApplicationJsonResponse~\x7d,~example~:[~string~]\x7d,~text/json~:\x7b~schema~:\x7b~$ref~:~#/components/schemas/MetaSearchProvidersGet200TextJsonResponse~\x7d,~example~:[~string~]\x7d,~application/xml~:\x7b~schema~:\x7b~$ref~:~#/components/schemas/MetaSearchProvidersGet200ApplicationXmlResponse~\x7d,~example~:~<MetaSearchProvidersGet200ApplicationXmlResponse>string</MetaSearchProvidersGet200ApplicationXmlResponse>~\x7d,~text/xml~:\x7b~schema~:\x7b~$ref~:~#/components/schemas/MetaSearchProvidersGet200TextXmlResponse~\x7d,~example~:~<MetaSearchProvidersGet200TextXmlResponse>string</MetaSearchProvidersGet200TextXmlResponse>~\x7d\x7d\x7d\x7d\x7d\x7d,~/Meta/Categories~:\x7b~get~:\x7b~tags~:[~Search~],~summary~:~Gets the available search categories.~,~description~:~Gets the available search categories.~,~operationId~:~Search_MetaCategories~,~responses~:\x7b~200~:\x7b~description~:~OK~,~content~:\x7b~application/json~:\x7b~schema~:\x7b~$ref~:~#/components/schemas/MetaCategoriesGet200ApplicationJsonResponse~\x7d,~example~:[~string~]\x7d,~text/json~:\x7b~schema~:\x7b~$ref~:~#/components/schemas/MetaCategoriesGet200TextJsonResponse~\x7d,~example~:[~string~]\x7d,~application/xml~:\x7b~schema~:\x7b~$ref~:~#/components/schemas/MetaCategoriesGet200ApplicationXmlResponse~\x7d,~example~:~<MetaCategoriesGet200ApplicationXmlResponse>string</MetaCategoriesGet200ApplicationXmlResponse>~\x7d,~text/xml~:\x7b~schema~:\x7b~$ref~:~#/components/schemas/MetaCategoriesGet200TextXmlResponse~\x7d,~example~:~<MetaCategoriesGet200TextXmlResponse>string</MetaCategoriesGet200TextXmlResponse>~\x7d\x7d\x7d\x7d\x7d\x7d,~/Meta/Sorts~:\x7b~get~:\x7b~tags~:[~Search~],~summary~:~Gets the available sorting options.~,~description~:~Gets the available sorting options.~,~operationId~:~Search_MetaSorts~,~responses~:\x7b~200~:\x7b~description~:~OK~,~content~:\x7b~application/json~:\x7b~schema~:\x7b~$ref~:~#/components/schemas/MetaSortsGet200ApplicationJsonResponse~\x7d,~example~:[~string~]\x7d,~text/json~:\x7b~schema~:\x7b~$ref~:~#/components/schemas/MetaSortsGet200TextJsonResponse~\x7d,~example~:[~string~]\x7d,~application/xml~:\x7b~schema~:\x7b~$ref~:~#/components/schemas/MetaSortsGet200ApplicationXmlResponse~\x7d,~example~:~<MetaSortsGet200ApplicationXmlResponse>string</MetaSortsGet200ApplicationXmlResponse>~\x7d,~text/xml~:\x7b~schema~:\x7b~$ref~:~#/components/schemas/MetaSortsGet200TextXmlResponse~\x7d,~example~:~<MetaSortsGet200TextXmlResponse>string</MetaSortsGet200TextXmlResponse>~\x7d\x7d\x7d\x7d\x7d\x7d\x7d,~components~:\x7b~schemas~:\x7b~Tfl~:\x7b~type~:~object~,~properties~:\x7b~id~:\x7b~type~:~string~\x7d,~url~:\x7b~type~:~string~\x7d,~name~:\x7b~type~:~string~\x7d,~lat~:\x7b~type~:~number~,~format~:~double~\x7d,~lon~:\x7b~type~:~number~,~format~:~double~\x7d\x7d\x7d,~Tfl-2~:\x7b~type~:~object~,~properties~:\x7b~query~:\x7b~type~:~string~\x7d,~from~:\x7b~type~:~integer~,~format~:~int32~\x7d,~page~:\x7b~type~:~integer~,~format~:~int32~\x7d,~pageSize~:\x7b~type~:~integer~,~format~:~int32~\x7d,~provider~:\x7b~type~:~string~\x7d,~total~:\x7b~type~:~integer~,~format~:~int32~\x7d,~matches~:\x7b~type~:~array~,~items~:\x7b~$ref~:~#/components/schemas/Tfl~\x7d\x7d,~maxScore~:\x7b~type~:~number~,~format~:~double~\x7d\x7d\x7d,~MetaSearchProvidersGet200ApplicationJsonResponse~:\x7b~type~:~array~,~items~:\x7b~type~:~string~\x7d\x7d,~MetaSearchProvidersGet200TextJsonResponse~:\x7b~type~:~array~,~items~:\x7b~type~:~string~\x7d\x7d,~MetaSearchProvidersGet200ApplicationXmlResponse~:\x7b~type~:~array~,~items~:\x7b~type~:~string~\x7d\x7d,~MetaSearchProvidersGet200TextXmlResponse~:\x7b~type~:~array~,~items~:\x7b~type~:~string~\x7d\x7d,~MetaCategoriesGet200ApplicationJsonResponse~:\x7b~type~:~array~,~items~:\x7b~type~:~string~\x7d\x7d,~MetaCategoriesGet200TextJsonResponse~:\x7b~type~:~array~,~items~:\x7b~type~:~string~\x7d\x7d,~MetaCategoriesGet200ApplicationXmlResponse~:\x7b~type~:~array~,~items~:\x7b~type~:~string~\x7d\x7d,~MetaCategoriesGet200TextXmlResponse~:\x7b~type~:~array~,~items~:\x7b~type~:~string~\x7d\x7d,~MetaSortsGet200ApplicationJsonResponse~:\x7b~type~:~array~,~items~:\x7b~type~:~string~\x7d\x7d,~MetaSortsGet200TextJsonResponse~:\x7b~type~:~array~,~items~:\x7b~type~:~string~\x7d\x7d,~MetaSortsGet200ApplicationXmlResponse~:\x7b~type~:~array~,~items~:\x7b~type~:~string~\x7d\x7d,~MetaSortsGet200TextXmlResponse~:\x7b~type~:~array~,~items~:\x7b~type~:~string~\x7d\x7d\x7d,~securitySchemes~:\x7b~apiKeyHeader~:\x7b~type~:~apiKey~,~name~:~app_key~,~in~:~header~\x7d,~apiKeyQuery~:\x7b~type~:~apiKey~,~name~:~app_key~,~in~:~query~\x7d\x7d\x7d,~security~:[\x7b~apiKeyHeader~:[]\x7d,\x7b~apiKeyQuery~:[]\x7d]\x7d"),
  ("StopPoint",
   "\x7b~openapi~:~3.0.1~,~info~:\x7b~title~:~StopPoint~,~description~:~API's relating to StopPoint and similar services~,~license~:\x7b~name~:~Transport Data Service~,~url~:~https://tfl.gov.uk/corporate/terms-and-conditions/transport-data-service~\x7d,~version~:~1.0~\x7d,~servers~:[\x7b~url~:~https://api.tfl.gov.uk/StopPoint~\x7d],~paths~:\x7b~/Meta/Categories~:\x7b~get~:\x7b~tags~:[~StopPoint~],~summary~:~Gets the list of available StopPoint additional information categories~,~description~:~Gets the list of available StopPoint additional information categories~,~operationId~:~StopPoint_MetaCategories~,~responses~:\x7b~200~:\x7b~description~:~OK~,~content~:\x7b~application/json~:\x7b~schema~:\x7b~type~:~array~,~items~:\x7b~$ref~:~#/components/schemas/Tfl.Api.Presentation.Entities.StopPointCategory~\x7d\x7d,~example~:[\x7b~category~:~string~,~availableKeys~:[~string~]\x7d]\x7d,~text/json~:\x7b~schema~:\x7b~type~:~array~,~items~:\x7b~$ref~:~#/components/schemas/Tfl.Api.Presentation.Entities.StopPointCategory~\x7d\x7d,~example~:[\x7b~category~:~string~,~availableKeys~:[~string~]\x7d]\x7d,~application/xml~:\x7b~schema~:\x7b~type~:~array~,~items~:\x7b~$ref~:~#/components/schemas/Tfl.Api.Presentation.Entities.StopPointCategory~\x7d\x7d,~example~:~<MetaCategoriesGet200ApplicationXmlResponse> <category>string</category> <availableKeys>string</availableKeys> </MetaCategoriesGet200ApplicationXmlResponse>~\x7d,~text/xml~:\x7b~schema~:\x7b~type~:~array~,~items~:\x7b~$ref~:~#/components/schemas/Tfl.Api.Presentation.Entities.StopPointCategory~\x7d\x7d,~example~:~<MetaCategoriesGet200TextXmlResponse> <category>string</category> <availableKeys>string</availableKeys> </MetaCategoriesGet200TextXmlResponse>~\x7d\x7d\x7d\x7d\x7d\x7d,~/*~:\x7b~get~:\x7b~tags~:[~StopPoint~],~summary~:~Forwards any remaining requests to the back-end~,~description~:~Forwards any remaining requests to the back-end~,~operationId~:~Forward_Proxy~,~responses~:\x7b~200~:\x7b~description~:~OK~,~content~:\x7b~application/json~:\x7b~schema~:\x7b~type~:~object~\x7d\x7d\x7d\x7d\x7d\x7d\x7d,~/Meta/StopTypes~:\x7b~get~:\x7b~tags~:[~StopPoint~],~summary~:~Gets the list of available StopPoint types~,~description~:~Gets the list of available StopPoint types~,~operationId~:~StopPoint_MetaStopTypes~,~responses~:\x7b~200~:\x7b~description~:~OK~,~content~:\x7b~application/json~:\x7b~schema~:\x7b~type~:~array~,~items~:\x7b~type~:~string~\x7d\x7d,~example~:[~string~]\x7d,~text/json~:\x7b~schema~:\x7b~type~:~array~,~items~:\x7b~type~:~string~\x7d\x7d,~example~:[~string~]\x7d,~application/xml~:\x7b~schema~:\x7b~type~:~array~,~items~:\x7b~type~:~string~\x7d\x7d,~example~:~<MetaStopTypesGet200ApplicationXmlResponse>string</MetaStopTypesGet200ApplicationXmlResponse>~\x7d,~text/xml~:\x7b~schema~:\x7b~type~:~array~,~items~:\x7b~type~:~string~\x7d\x7d,~example~:~<MetaStopTypesGet200TextXmlResponse>string</MetaStopTypesGet200TextXmlResponse>~\x7d\x7d\x7d\x7d\x7d\x7d,~/Meta/Modes~:\x7b~get~:\x7b~tags~:[~StopPoint~],~summary~:~Gets the list of available StopPoint modes~,~description~:~Gets the list of available StopPoint modes~,~operationId~:~StopPoint_MetaModes~,~responses~:\x7b~200~:\x7b~description~:~OK~,~content~:\x7b~application/json~:\x7b~schema~:\x7b~type~:~array~,~items~:\x7b~$ref~:~#/components/schemas/Tfl.Api.Presentation.Entities.Mode~\x7d\x7d,~example~:[\x7b~isTflService~:true,~isFarePaying~:true,~isScheduledService~:true,~modeName~:~string~\x7d]\x7d,~text/json~:\x7b~schema~:\x7b~type~:~array~,~items~:\x7b~$ref~:~#/components/schemas/Tfl.Api.Presentation.Entities.Mode~\x7d\x7d,~example~:[\x7b~isTflService~:true,~isFarePaying~:true,~isScheduledService~:true,~modeName~:~string~\x7d]\x7d,~application/xml~:\x7b~schema~:\x7b~type~:~array~,~items~:\x7b~$ref~:~#/components/schemas/Tfl.Api.Presentation.Entities.Mode~\x7d\x7d,~example~:~<MetaModesGet200ApplicationXmlResponse> <isTflService>true</isTflService> <isFarePaying>true</isFarePaying> <isScheduledService>true</isScheduledService> <modeName>string</modeName> </MetaModesGet200ApplicationXmlResponse>~\x7d,~text/xml~:\x7b~schema~:\x7b~type~:~array~,~items~:\x7b~$ref~:~#/components/schemas/Tfl.Api.Presentation.Entities.Mode~\x7d\x7d,~example~:~<MetaModesGet200TextXmlResponse> <isTflService>true</isTflService> <isFarePaying>true</isFarePaying> <isScheduledService>true</isScheduledService> <modeName>string</modeName> </MetaModesGet200TextXmlResponse>~\x7d\x7d\x7d\x7d\x7d\x7d,~/\x7bids\x7d~:\x7b~get~:\x7b~tags~:[~StopPoint~],~summary~:~Gets a list of StopPoints corresponding to the given list of stop ids.~,~description~:~Gets a list of StopPoints corresponding to the given list of stop ids.~,~operationId~:~StopPoint_GetByPathIdsQueryIncludeCrowdingData~,~parameters~:[\x7b~name~:~ids~,~in~:~path~,~description~:~A comma-separated list of stop point ids (station naptan code e.g. 940GZZLUASL). Max. approx. 20 ids.\\r\\n            You can use /StopPoint/Search/\x7bquery\x7d endpoint to find a stop point id from a station name.~,~required~:true,~schema~:\x7b~type~:~string~\x7d,~example~:~HUBWAT~\x7d,\x7b~name~:~includeCrowdingData~,~in~:~query~,~description~:~Include the crowding data (static). To Filter further use: /StopPoint/\x7bids\x7d/Crowding/\x7bline\x7d~,~schema~:\x7b~type~:~boolean~\x7d\x7d],~responses~:\x7b~200~:\x7b~description~:~OK~,~content~:\x7b~application/json~:\x7b~schema~:\x7b~type~:~array~,~items~:\x7b~$ref~:~#/components/schemas/Tfl.Api.Presentation.Entities.StopPoint~\x7d\x7d\x7d,~text/json~:\x7b~schema~:\x7b~type~:~array~,~items~:\x7b~$ref~:~#/components/schemas/Tfl.Api.Presentation.Entities.StopPoint~\x7d\x7d\x7d,~application/xml~:\x7b~schema~:\x7b~type~:~array~,~items~:\x7b~$ref~:~#/components/schemas/Tfl.Api.Presentation.Entities.StopPoint~\x7d\x7d\x7d,~text/xml~:\x7b~schema~:\x7b~type~:~array~,~items~:\x7b~$ref~:~#/components/schemas/Tfl.Api.Presentation.Entities.StopPoint~\x7d\x7d\x7d\x7d\x7d\x7d\x7d\x7d,~/\x7bid\x7d/placeTypes~:\x7b~get~:\x7b~tags~:[~StopPoint~],~summary~:~Get a list of places corresponding to a given id and place types.~,~description~:~Get a list of places corresponding to a given id and place types.~,~operationId~:~StopPoint_GetByPathIdQueryPlaceTypes~,~parameters~:[\x7b~name~:~id~,~in~:~path~,~description~:~A naptan id for a stop point (station naptan code e.g. 940GZZLUASL).~,~required~:true,~schema~:\x7b~type~:~string~\x7d,~example~:~930GWMP~\x7d,\x7b~name~:~placeTypes~,~in~:~query~,~description~:~A comcomma-separated value representing the place types.~,~required~:true,~schema~:\x7b~type~:~string~\x7d,~example~:~NaptanFerryEntrance~\x7d],~responses~:\x7b~200~:\x7b~description~:~OK~,~content~:\x7b~application/json~:\x7b~schema~:\x7b~type~:~array~,~items~:\x7b~$ref~:~#/components/schemas/Tfl.Api.Presentation.Entities.Place~\x7d\x7d\x7d,~text/json~:\x7b~schema~:\x7b~type~:~array~,~items~:\x7b~$ref~:~#/components/schemas/Tfl.Api.Presentation.Entities.Place~\x7d\x7d\x7d,~application/xml~:\x7b~schema~:\x7b~type~:~array~,~items~:\x7b~$ref~:~#/components/schemas/Tfl.Api.Presentation.Entities.Place~\x7d\x7d\x7d,~text/xml~:\x7b~schema~:\x7b~type~:~array~,~items~:\x7b~$ref~:~#/components/schemas/Tfl.Api.Presentation.Entities.Place~\x7d\x7d\x7d\x7d\x7d\x7d\x7d\x7d,~/\x7bid\x7d/Crowding/\x7bline\x7d~:\x7b~get~:\x7b~tags~:[~StopPoint~],~summary~:~Gets all the Crowding data (static) for the StopPointId, plus crowding data for a given line and optionally a particular direction.~,~description~:~Gets all the Crowding data (static) for the StopPointId, plus crowding data for a given line and optionally a particular direction.~,~operationId~:~StopPoint_CrowdingByPathIdPathLineQueryDirection~,~parameters~:[\x7b~name~:~id~,~in~:~path~,~description~:~The Naptan id of the stop~,~required~:true,~schema~:\x7b~type~:~string~\x7d,~example~:~940GZZLUSWK~\x7d,\x7b~name~:~line~,~in~:~path~,~description~:~A particular line e.g. victoria, circle, northern etc.~,~required~:true,~schema~:\x7b~type~:~string~\x7d,~example~:~jubilee~\x7d,\x7b~name~:~direction~,~in~:~query~,~description~:~The direction of travel. Can be inbound or outbound.~,~required~:true,~schema~:\x7b~enum~:[~inbound~,~outbound~,~all~],~type~:~string~\x7d,~example~:~all~\x7d],~responses~:\x7b~200~:\x7b~description~:~OK~,~content~:\x7b~application/json~:\x7b~schema~:\x7b~type~:~array~,~items~:\x7b~$ref~:~#/components/schemas/Tfl.Api.Presentation.Entities.StopPoint~\x7d\x7d\x7d,~text/json~:\x7b~schema~:\x7b~type~:~array~,~items~:\x7b~$ref~:~#/components/schemas/Tfl.Api.Presentation.Entities.StopPoint~\x7d\x7d\x7d,~application/xml~:\x7b~schema~:\x7b~type~:~array~,~items~:\x7b~$ref~:~#/components/schemas/Tfl.Api.Presentation.Entities.StopPoint~\x7d\x7d\x7d,~text/xml~:\x7b~schema~:\x7b~type~:~array~,~items~:\x7b~$ref~:~#/components/schemas/Tfl.Api.Presentation.Entities.StopPoint~\x7d\x7d\x7d\x7d\x7d\x7d\x7d\x7d,~/Type/\x7btypes\x7d~:\x7b~get~:\x7b~tags~:[~StopPoint~],~summary~:~Gets all stop points of a given type~,~description~:~Gets all stop points of a given type~,~operationId~:~StopPoint_GetByTypeByPathTypes~,~parameters~:[\x7b~name~:~types~,~in~:~path~,~description~:~A comma-separated list of the types to return. Max. approx. 12 types. \\r\\n            A list of valid stop types can be obtained from the StopPoint/meta/stoptypes endpoint.~,~required~:true,~schema~:\x7b~type~:~string~\x7d,~example~:~TransportInterchange~\x7d],~responses~:\x7b~200~:\x7b~description~:~OK~,~content~:\x7b~application/json~:\x7b~schema~:\x7b~type~:~array~,~items~:\x7b~$ref~:~#/components/schemas/Tfl.Api.Presentation.Entities.StopPoint~\x7d\x7d\x7d,~text/json~:\x7b~schema~:\x7b~type~:~array~,~items~:\x7b~$ref~:~#/components/schemas/Tfl.Api.Presentation.Entities.StopPoint~\x7d\x7d\x7d,~application/xml~:\x7b~schema~:\x7b~type~:~array~,~items~:\x7b~$ref~:~#/components/schemas/Tfl.Api.Presentation.Entities.StopPoint~\x7d\x7d\x7d,~text/xml~:\x7b~schema~:\x7b~type~:~array~,~items~:\x7b~$ref~:~#/components/schemas/Tfl.Api.Presentation.Entities.StopPoint~\x7d\x7d\x7d\x7d\x7d\x7d\x7d\x7d,~/Type/\x7btypes\x7d/page/\x7bpage\x7d~:\x7b~get~:\x7b~tags~:[~StopPoint~],~summary~:~Gets all the stop points of given type(s) with a page number~,~description~:~Gets all the stop points of given type(s) with a page number~,~operationId~:~StopPoint_GetByTypeWithPaginationByPathTypesPathPage~,~parameters~:[\x7b~name~:~types~,~in~:~path~,~description~:~~,~required~:true,~schema~:\x7b~type~:~string~\x7d,~example~:~TransportInterchange~\x7d,\x7b~name~:~page~,~in~:~path~,~description~:~Format - int32.~,~required~:true,~schema~:\x7b~type~:~integer~,~format~:~int32~\x7d,~example~:1\x7d],~responses~:\x7b~200~:\x7b~description~:~OK~,~content~:\x7b~application/json~:\x7b~schema~:\x7b~type~:~array~,~items~:\x7b~$ref~:~#/components/schemas/Tfl.Api.Presentation.Entities.StopPoint~\x7d\x7d\x7d,~text/json~:\x7b~schema~:\x7b~type~:~array~,~items~:\x7b~$ref~:~#/components/schemas/Tfl.Api.Presentation.Entities.StopPoint~\x7d\x7d\x7d,~application/xml~:\x7b~schema~:\x7b~type~:~array~,~items~:\x7b~$ref~:~#/components/schemas/Tfl.Api.Presentation.Entities.StopPoint~\x7d\x7d\x7d,~text/xml~:\x7b~schema~:\x7b~type~:~array~,~items~:\x7b~$ref~:~#/components/schemas/Tfl.Api.Presentation.Entities.StopPoint~\x7d\x7d\x7d\x7d\x7d\x7d\x7d\x7d,~/ServiceTypes~:\x7b~get~:\x7b~tags~:[~StopPoint~],~summary~:~Gets the service types for a given stoppoint~,~description~:~Gets the service types for a given stoppoint~,~operationId~:~StopPoint_GetServiceTypesByQueryIdQueryLineIdsQueryModes~,~parameters~:[\x7b~name~:~id~,~in~:~query~,~description~:~The Naptan id of the stop~,~required~:true,~schema~:\x7b~type~:~string~\x7d,~example~:~910GSTJMSST~\x7d,\x7b~name~:~lineIds~,~in~:~query~,~description~:~The lines which contain the given Naptan id (all lines relevant to the given stoppoint if empty)~,~schema~:\x7b~type~:~array~,~items~:\x7b~type~:~string~\x7d\x7d\x7d,\x7b~name~:~modes~,~in~:~query~,~description~:~The modes which the lines are relevant to (all if empty)~,~schema~:\x7b~type~:~array~,~items~:\x7b~type~:~string~\x7d\x7d\x7d],~responses~:\x7b~200~:\x7b~description~:~OK~,~content~:\x7b~application/json~:\x7b~schema~:\x7b~type~:~array~,~items~:\x7b~$ref~:~#/components/schemas/Tfl.Api.Presentation.Entities.LineServiceType~\x7d\x7d,~example~:[\x7b~lineName~:~string~,~lineSpecificServiceTypes~:[\x7b~serviceType~:\x7b~name~:~string~,~uri~:~string~\x7d,~stopServesServiceType~:true\x7d]\x7d]\x7d,~text/json~:\x7b~schema~:\x7b~type~:~array~,~items~:\x7b~$ref~:~#/components/schemas/Tfl.Api.Presentation.Entities.LineServiceType~\x7d\x7d,~example~:[\x7b~lineName~:~string~,~lineSpecificServiceTypes~:[\x7b~serviceType~:\x7b~name~:~string~,~uri~:~string~\x7d,~stopServesServiceType~:true\x7d]\x7d]\x7d,~application/xml~:\x7b~schema~:\x7b~type~:~array~,~items~:\x7b~$ref~:~#/components/schemas/Tfl.Api.Presentation.Entities.LineServiceType~\x7d\x7d,~example~:~<ServiceTypesGet200ApplicationXmlResponse> <lineName>string</lineName> <lineSpecificServiceTypes> <serviceType> <name>string</name> <uri>string</uri> </serviceType> <stopServesServiceType>true</stopServesServiceType> </lineSpecificServiceTypes> </ServiceTypesGet200ApplicationXmlResponse>~\x7d,~text/xml~:\x7b~schema~:\x7b~type~:~array~,~items~:\x7b~$ref~:~#/components/schemas/Tfl.Api.Presentation.Entities.LineServiceType~\x7d\x7d,~example~:~<ServiceTypesGet200TextXmlResponse> <lineName>string</lineName> <lineSpecificServiceTypes> <serviceType> <name>string</name> <uri>string</uri> </serviceType> <stopServesServiceType>true</stopServesServiceType> </lineSpecificServiceTypes> </ServiceTypesGet200TextXmlResponse>~\x7d\x7d\x7d\x7d\x7d\x7d,~/\x7bid\x7d/Arrivals~:\x7b~get~:\x7b~tags~:[~StopPoint~],~summary~:~Gets the list of arrival predictions for the given stop point id~,~description~:~Gets the list of arrival predictions for the given stop point id~,~operationId~:~StopPoint_ArrivalsByPathId~,~parameters~:[\x7b~name~:~id~,~in~:~path~,~description~:~A StopPoint id (station naptan code e.g. 940GZZLUASL, you can use /StopPoint/Search/\x7bquery\x7d endpoint to find a stop point id from a station name)~,~required~:true,~schema~:\x7b~type~:~string~\x7d,~example~:~HUBWAT~\x7d],~responses~:\x7b~200~:\x7b~description~:~OK~,~content~:\x7b~application/json~:\x7b~schema~:\x7b~type~:~array~,~items~:\x7b~$ref~:~#/components/schemas/Tfl.Api.Presentation.Entities.Prediction~\x7d\x7d,~example~:[\x7b~id~:~string~,~operationType~:0,~vehicleId~:~string~,~naptanId~:~string~,~stationName~:~string~,~lineId~:~string~,~lineName~:~string~,~platformName~:~string~,~direction~:~string~,~bearing~:~string~,~destinationNaptanId~:~string~,~destinationName~:~string~,~timestamp~:~string~,~timeToStation~:0,~currentLocation~:~string~,~towards~:~string~,~expectedArrival~:~string~,~timeToLive~:~string~,~modeName~:~string~,~timing~:\x7b~countdownServerAdjustment~:~string~,~source~:~string~,~insert~:~string~,~read~:~string~,~sent~:~string~,~received~:~string~\x7d\x7d]\x7d,~text/json~:\x7b~schema~:\x7b~type~:~array~,~items~:\x7b~$ref~:~#/components/schemas/Tfl.Api.Presentation.Entities.Prediction~\x7d\x7d,~example~:[\x7b~id~:~string~,~operationType~:0,~vehicleId~:~string~,~naptanId~:~string~,~stationName~:~string~,~lineId~:~string~,~lineName~:~string~,~platformName~:~string~,~direction~:~string~,~bearing~:~string~,~destinationNaptanId~:~string~,~destinationName~:~string~,~timestamp~:~string~,~timeToStation~:0,~currentLocation~:~string~,~towards~:~string~,~expectedArrival~:~string~,~timeToLive~:~string~,~modeName~:~string~,~timing~:\x7b~countdownServerAdjustment~:~string~,~source~:~string~,~insert~:~string~,~read~:~string~,~sent~:~string~,~received~:~string~\x7d\x7d]\x7d,~application/xml~:\x7b~schema~:\x7b~type~:~array~,~items~:\x7b~$ref~:~#/components/schemas/Tfl.Api.Presentation.Entities.Prediction~\x7d\x7d,~example~:~<id-ArrivalsGet200ApplicationXmlResponse> <id>string</id> <operationType>0</operationType> <vehicleId>string</vehicleId> <naptanId>string</naptanId> <stationName>string</stationName> <lineId>string</lineId> <lineName>string</lineName> <platformName>string</platformName> <direction>string</direction> <bearing>string</bearing> <destinationNaptanId>string</destinationNaptanId> <destinationName>string</destinationName> <timestamp>string</timestamp> <timeToStation>0</timeToStation> <currentLocation>string</currentLocation> <towards>string</towards> <expectedArrival>string</expectedArrival> <timeToLive>string</timeToLive> <modeName>string</modeName> <timing> <countdownServerAdjustment>string</countdownServerAdjustment> <source>string</source> <insert>string</insert> <read>string</read> <sent>string</sent> <received>string</received> </timing> </id-ArrivalsGet200ApplicationXmlResponse>~\x7d,~text/xml~:\x7b~schema~:\x7b~type~:~array~,~items~:\x7b~$ref~:~#/components/schemas/Tfl.Api.Presentation.Entities.Prediction~\x7d\x7d,~example~:~<id-ArrivalsGet200TextXmlResponse> <id>string</id> <operationType>0</operationType> <vehicleId>string</vehicleId> <naptanId>string</naptanId> <stationName>string</stationName> <lineId>string</lineId> <lineName>string</lineName> <platformName>string</platformName> <direction>string</direction> <bearing>string</bearing> <destinationNaptanId>string</destinationNaptanId> <destinationName>string</destinationName> <timestamp>string</timestamp> <timeToStation>0</timeToStation> <currentLocation>string</currentLocation> <towards>string</towards> <expectedArrival>string</expectedArrival> <timeToLive>string</timeToLive> <modeName>string</modeName> <timing> <countdownServerAdjustment>string</countdownServerAdjustment> <source>string</source> <insert>string</insert> <read>string</read> <sent>string</sent> <received>string</received> </timing> </id-ArrivalsGet200TextXmlResponse>~\x7d\x7d\x7d\x7d\x7d\x7d,~/\x7bid\x7d/ArrivalDepartures~:\x7b~get~:\x7b~tags~:[~StopPoint~],~summary~:~Gets the list of arrival and departure predictions for the given stop point id (overground and tfl rail only)~,~description~:~Gets the list of arrival and departure predictions for the given stop point id (overground and tfl rail only)~,~operationId~:~StopPoint_ArrivalDeparturesByPathIdQueryLineIds~,~parameters~:[\x7b~name~:~id~,~in~:~path~,~description~:~A StopPoint id (station naptan code e.g. 940GZZLUASL, you can use /StopPoint/Search/\x7bquery\x7d endpoint to find a stop point id from a station name)~,~required~:true,~schema~:\x7b~type~:~string~\x7d,~example~:~910GLIVST~\x7d,\x7b~name~:~lineIds~,~in~:~query~,~description~:~A comma-separated list of line ids e.g. tfl-rail, london-overground~,~required~:true,~schema~:\x7b~type~:~string~\x7d,~example~:~elizabeth~\x7d],~responses~:\x7b~200~:\x7b~description~:~OK~,~content~:\x7b~application/json~:\x7b~schema~:\x7b~type~:~array~,~items~:\x7b~$ref~:~#/components/schemas/Tfl.Api.Presentation.Entities.ArrivalDeparture~\x7d\x7d,~example~:[\x7b~platformName~:~string~,~destinationNaptanId~:~string~,~destinationName~:~string~,~naptanId~:~string~,~stationName~:~string~,~estimatedTimeOfArrival~:~string~,~scheduledTimeOfArrival~:~string~,~estimatedTimeOfDeparture~:~string~,~scheduledTimeOfDeparture~:~string~,~minutesAndSecondsToArrival~:~string~,~minutesAndSecondsToDeparture~:~string~,~cause~:~string~,~departureStatus~:~OnTime~,~timing~:\x7b~countdownServerAdjustment~:~string~,~source~:~string~,~insert~:~string~,~read~:~string~,~sent~:~string~,~received~:~string~\x7d\x7d]\x7d,~text/json~:\x7b~schema~:\x7b~type~:~array~,~items~:\x7b~$ref~:~#/components/schemas/Tfl.Api.Presentation.Entities.ArrivalDeparture~\x7d\x7d,~example~:[\x7b~platformName~:~string~,~destinationNaptanId~:~string~,~destinationName~:~string~,~naptanId~:~string~,~stationName~:~string~,~estimatedTimeOfArrival~:~string~,~scheduledTimeOfArrival~:~string~,~estimatedTimeOfDeparture~:~string~,~scheduledTimeOfDeparture~:~string~,~minutesAndSecondsToArrival~:~string~,~minutesAndSecondsToDeparture~:~string~,~cause~:~string~,~departureStatus~:~OnTime~,~timing~:\x7b~countdownServerAdjustment~:~string~,~source~:~string~,~insert~:~string~,~read~:~string~,~sent~:~string~,~received~:~string~\x7d\x7d]\x7d,~application/xml~:\x7b~schema~:\x7b~type~:~array~,~items~:\x7b~$ref~:~#/components/schemas/Tfl.Api.Presentation.Entities.ArrivalDeparture~\x7d\x7d,~example~:~<id-ArrivalDeparturesGet200ApplicationXmlResponse> <platformName>string</platformName> <destinationNaptanId>string</destinationNaptanId> <destinationName>string</destinationName> <naptanId>string</naptanId> <stationName>string</stationName> <estimatedTimeOfArrival>string</estimatedTimeOfArrival> <scheduledTimeOfArrival>string</scheduledTimeOfArrival> <estimatedTimeOfDeparture>string</estimatedTimeOfDeparture> <scheduledTimeOfDeparture>string</scheduledTimeOfDeparture> <minutesAndSecondsToArrival>string</minutesAndSecondsToArrival> <minutesAndSecondsToDeparture>string</minutesAndSecondsToDeparture> <cause>string</cause> <departureStatus>OnTime</departureStatus> <timing> <countdownServerAdjustment>string</countdownServerAdjustment> <source>string</source> <insert>string</insert> <read>string</read> <sent>string</sent> <received>string</received> </timing> </id-ArrivalDeparturesGet200ApplicationXmlResponse>~\x7d,~text/xml~:\x7b~schema~:\x7b~type~:~array~,~items~:\x7b~$ref~:~#/components/schemas/Tfl.Api.Presentation.Entities.ArrivalDeparture~\x7d\x7d,~example~:~<id-ArrivalDeparturesGet200TextXmlResponse> <platformName>string</platformName> <destinationNaptanId>string</destinationNaptanId> <destinationName>string</destinationName> <naptanId>string</naptanId> <stationName>string</stationName> <estimatedTimeOfArrival>string</estimatedTimeOfArrival> <scheduledTimeOfArrival>string</scheduledTimeOfArrival> <estimatedTimeOfDeparture>string</estimatedTimeOfDeparture> <scheduledTimeOfDeparture>string</scheduledTimeOfDeparture> <minutesAndSecondsToArrival>string</minutesAndSecondsToArrival> <minutesAndSecondsToDeparture>string</minutesAndSecondsToDeparture> <cause>string</cause> <departureStatus>OnTime</departureStatus> <timing> <countdownServerAdjustment>string</countdownServerAdjustment> <source>string</source> <insert>string</insert> <read>string</read> <sent>string</sent> <received>string</received> </timing> </id-ArrivalDeparturesGet200TextXmlResponse>~\x7d\x7d\x7d\x7d\x7d\x7d,~/\x7bid\x7d/CanReachOnLine/\x7blineId\x7d~:\x7b~get~:\x7b~tags~:[~StopPoint~],~summary~:~Gets Stopoints that are reachable from a station/line combination.~,~description~:~Gets Stopoints that are reachable from a station/line combination.~,~operationId~:~StopPoint_ReachableFromByPathIdPathLineIdQueryServiceTypes~,~parameters~:[\x7b~name~:~id~,~in~:~path~,~description~:~The id (station naptan code e.g. 940GZZLUASL, you can use /StopPoint/Search/\x7bquery\x7d endpoint to find a stop point id from a station name) of the stop point to filter by~,~required~:true,~schema~:\x7b~type~:~string~\x7d,~example~:~940GZZLUASL~\x7d,\x7b~name~:~lineId~,~in~:~path~,~description~:~Line id of the line to filter by (e.g. victoria)~,~required~:true,~schema~:\x7b~type~:~string~\x7d,~example~:~Piccadilly~\x7d,\x7b~name~:~serviceTypes~,~in~:~query~,~description~:~A comma-separated list of service types to filter on. If not specified. Supported values: Regular, Night. Defaulted to 'Regular' if not specified~,~schema~:\x7b~enum~:[~Regular~,~Night~],~type~:~string~\x7d,~example~:~Regular~\x7d],~responses~:\x7b~200~:\x7b~description~:~OK~,~content~:\x7b~application/json~:\x7b~schema~:\x7b~type~:~array~,~items~:\x7b~$ref~:~#/components/schemas/Tfl.Api.Presentation.Entities.StopPoint~\x7d\x7d\x7d,~text/json~:\x7b~schema~:\x7b~type~:~array~,~items~:\x7b~$ref~:~#/components/schemas/Tfl.Api.Presentation.Entities.StopPoint~\x7d\x7d\x7d,~application/xml~:\x7b~schema~:\x7b~type~:~array~,~items~:\x7b~$ref~:~#/components/schemas/Tfl.Api.Presentation.Entities.StopPoint~\x7d\x7d\x7d,~text/xml~:\x7b~schema~:\x7b~type~:~array~,~items~:\x7b~$ref~:~#/components/schemas/Tfl.Api.Presentation.Entities.StopPoint~\x7d\x7d\x7d\x7d\x7d\x7d\x7d\x7d,~/\x7bid\x7d/Route~:\x7b~get~:\x7b~tags~:[~StopPoint~],~summary~:~Returns the route sections for all the lines that service the given stop point ids~,~description~:~Returns the route sections for all the lines that service the given stop point ids~,~operationId~:~StopPoint_RouteByPathIdQueryServiceTypes~,~parameters~:[\x7b~name~:~id~,~in~:~path~,~description~:~A stop point id (station naptan codes e.g. 940GZZLUASL, you can use /StopPoint/Search/\x7bquery\x7d endpoint to find a stop point id from a station name)~,~required~:true,~schema~:\x7b~type~:~string~\x7d,~example~:~940GZZLUASL~\x7d,\x7b~name~:~serviceTypes~,~in~:~query~,~description~:~A comma-separated list of service types to filter on. If not specified. Supported values: Regular, Night. Defaulted to 'Regular' if not specified~,~schema~:\x7b~enum~:[~Regular~,~Night~],~type~:~string~\x7d,~example~:~Regular~\x7d],~responses~:\x7b~200~:\x7b~description~:~OK~,~content~:\x7b~application/json~:\x7b~schema~:\x7b~type~:~array~,~items~:\x7b~$ref~:~#/components/schemas/Tfl.Api.Presentation.Entities.StopPointRouteSection~\x7d\x7d,~example~:[\x7b~naptanId~:~string~,~lineId~:~string~,~mode~:~string~,~validFrom~:~string~,~validTo~:~string~,~direction~:~string~,~routeSectionName~:~string~,~lineString~:~string~,~isActive~:true,~serviceType~:~string~,~vehicleDestinationText~:~string~,~destinationName~:~string~\x7d]\x7d,~text/json~:\x7b~schema~:\x7b~type~:~array~,~items~:\x7b~$ref~:~#/components/schemas/Tfl.Api.Presentation.Entities.StopPointRouteSection~\x7d\x7d,~example~:[\x7b~naptanId~:~string~,~lineId~:~string~,~mode~:~string~,~validFrom~:~string~,~validTo~:~string~,~direction~:~string~,~routeSectionName~:~string~,~lineString~:~string~,~isActive~:true,~serviceType~:~string~,~vehicleDestinationText~:~string~,~destinationName~:~string~\x7d]\x7d,~application/xml~:\x7b~schema~:\x7b~type~:~array~,~items~:\x7b~$ref~:~#/components/schemas/Tfl.Api.Presentation.Entities.StopPointRouteSection~\x7d\x7d,~example~:~<id-RouteGet200ApplicationXmlResponse> <naptanId>string</naptanId> <lineId>string</lineId> <mode>string</mode> <validFrom>string</validFrom> <validTo>string</validTo> <direction>string</direction> <routeSectionName>string</routeSectionName> <lineString>string</lineString> <isActive>true</isActive> <serviceType>string</serviceType> <vehicleDestinationText>string</vehicleDestinationText> <destinationName>string</destinationName> </id-RouteGet200ApplicationXmlResponse>~\x7d,~text/xml~:\x7b~schema~:\x7b~type~:~array~,~items~:\x7b~$ref~:~#/components/schemas/Tfl.Api.Presentation.Entities.StopPointRouteSection~\x7d\x7d,~example~:~<id-RouteGet200TextXmlResponse> <naptanId>string</naptanId> <lineId>string</lineId> <mode>string</mode> <validFrom>string</validFrom> <validTo>string</validTo> <direction>string</direction> <routeSectionName>string</routeSectionName> <lineString>string</lineString> <isActive>true</isActive> <serviceType>string</serviceType> <vehicleDestinationText>string</vehicleDestinationText> <destinationName>string</destinationName> </id-RouteGet200TextXmlResponse>~\x7d\x7d\x7d\x7d\x7d\x7d,~/Mode/\x7bmodes\x7d/Disruption~:\x7b~get~:\x7b~tags~:[~StopPoint~],~summary~:~Gets a distinct list of disrupted stop points for the given modes~,~description~:~Gets a distinct list of disrupted stop points for the given modes~,~operationId~:~StopPoint_DisruptionByModeByPathModesQueryIncludeRouteBlockedStops~,~parameters~:[\x7b~name~:~modes~,~in~:~path~,~description~:~A comma-seperated list of modes e.g. tube,dlr~,~required~:true,~schema~:\x7b~type~:~string~\x7d,~example~:~Tube~\x7d,\x7b~name~:~includeRouteBlockedStops~,~in~:~query~,~description~:~~,~schema~:\x7b~type~:~boolean~\x7d\x7d],~responses~:\x7b~200~:\x7b~description~:~OK~,~content~:\x7b~application/json~:\x7b~schema~:\x7b~type~:~array~,~items~:\x7b~$ref~:~#/components/schemas/Tfl.Api.Presentation.Entities.DisruptedPoint~\x7d\x7d,~example~:[\x7b~atcoCode~:~string~,~fromDate~:~string~,~toDate~:~string~,~description~:~string~,~commonName~:~string~,~type~:~string~,~mode~:~string~,~stationAtcoCode~:~string~,~appearance~:~string~,~additionalInformation~:~string~\x7d]\x7d,~text/json~:\x7b~schema~:\x7b~type~:~array~,~items~:\x7b~$ref~:~#/components/schemas/Tfl.Api.Presentation.Entities.DisruptedPoint~\x7d\x7d,~example~:[\x7b~atcoCode~:~string~,~fromDate~:~string~,~toDate~:~string~,~description~:~string~,~commonName~:~string~,~type~:~string~,~mode~:~string~,~stationAtcoCode~:~string~,~appearance~:~string~,~additionalInformation~:~string~\x7d]\x7d,~application/xml~:\x7b~schema~:\x7b~type~:~array~,~items~:\x7b~$ref~:~#/components/schemas/Tfl.Api.Presentation.Entities.DisruptedPoint~\x7d\x7d,~example~:~<Mode-modes-DisruptionGet200ApplicationXmlResponse> <atcoCode>string</atcoCode> <fromDate>string</fromDate> <toDate>string</toDate> <description>string</description> <commonName>string</commonName> <type>string</type> <mode>string</mode> <stationAtcoCode>string</stationAtcoCode> <appearance>string</appearance> <additionalInformation>string</additionalInformation> </Mode-modes-DisruptionGet200ApplicationXmlResponse>~\x7d,~text/xml~:\x7b~schema~:\x7b~type~:~array~,~items~:\x7b~$ref~:~#/components/schemas/Tfl.Api.Presentation.Entities.DisruptedPoint~\x7d\x7d,~example~:~<Mode-modes-DisruptionGet200TextXmlResponse> <atcoCode>string</atcoCode> <fromDate>string</fromDate> <toDate>string</toDate> <description>string</description> <commonName>string</commonName> <type>string</type> <mode>string</mode> <stationAtcoCode>string</stationAtcoCode> <appearance>string</appearance> <additionalInformation>string</additionalInformation> </Mode-modes-DisruptionGet200TextXmlResponse>~\x7d\x7d\x7d\x7d\x7d\x7d,~/\x7bids\x7d/Disruption~:\x7b~get~:\x7b~tags~:[~StopPoint~],~summary~:~Gets all disruptions for the specified StopPointId, plus disruptions for any child Naptan records it may have.~,~description~:~Gets all disruptions for the specified StopPointId, plus disruptions for any child Naptan records it may have.~,~operationId~:~StopPoint_DisruptionByPathIdsQueryGetFamilyQueryIncludeRouteBlockedStopsQuer~,~parameters~:[\x7b~name~:~ids~,~in~:~path~,~description~:~A comma-seperated list of stop point ids. Max. approx. 20 ids.\\r\\n            You can use /StopPoint/Search/\x7bquery\x7d endpoint to find a stop point id from a station name.~,~required~:true,~schema~:\x7b~type~:~string~\x7d,~example~:~940GZZLUASL~\x7d,\x7b~name~:~getFamily~,~in~:~query~,~description~:~Specify true to return disruptions for entire family, or false to return disruptions for just this stop point. Defaults to false.~,~schema~:\x7b~type~:~boolean~\x7d\x7d,\x7b~name~:~includeRouteBlockedStops~,~in~:~query~,~description~:~~,~schema~:\x7b~type~:~boolean~\x7d\x7d,\x7b~name~:~flattenResponse~,~in~:~query~,~description~:~Specify true to associate all disruptions with parent stop point. (Only applicable when getFamily is true).~,~schema~:\x7b~type~:~boolean~\x7d\x7d],~responses~:\x7b~200~:\x7b~description~:~OK~,~content~:\x7b~application/json~:\x7b~schema~:\x7b~type~:~array~,~items~:\x7b~$ref~:~#/components/schemas/Tfl.Api.Presentation.Entities.DisruptedPoint~\x7d\x7d,~example~:[\x7b~atcoCode~:~string~,~fromDate~:~string~,~toDate~:~string~,~description~:~string~,~commonName~:~string~,~type~:~string~,~mode~:~string~,~stationAtcoCode~:~string~,~appearance~:~string~,~additionalInformation~:~string~\x7d]\x7d,~text/json~:\x7b~schema~:\x7b~type~:~array~,~items~:\x7b~$ref~:~#/components/schemas/Tfl.Api.Presentation.Entities.DisruptedPoint~\x7d\x7d,~example~:[\x7b~atcoCode~:~string~,~fromDate~:~string~,~toDate~:~string~,~description~:~string~,~commonName~:~string~,~type~:~string~,~mode~:~string~,~stationAtcoCode~:~string~,~appearance~:~string~,~additionalInformation~:~string~\x7d]\x7d,~application/xml~:\x7b~schema~:\x7b~type~:~array~,~items~:\x7b~$ref~:~#/components/schemas/Tfl.Api.Presentation.Entities.DisruptedPoint~\x7d\x7d,~example~:~<ids-DisruptionGet200ApplicationXmlResponse> <atcoCode>string</atcoCode> <fromDate>string</fromDate> <toDate>string</toDate> <description>string</description> <commonName>string</commonName> <type>string</type> <mode>string</mode> <stationAtcoCode>string</stationAtcoCode> <appearance>string</appearance> <additionalInformation>string</additionalInformation> </ids-DisruptionGet200ApplicationXmlResponse>~\x7d,~text/xml~:\x7b~schema~:\x7b~type~:~array~,~items~:\x7b~$ref~:~#/components/schemas/Tfl.Api.Presentation.Entities.DisruptedPoint~\x7d\x7d,~example~:~<ids-DisruptionGet200TextXmlResponse> <atcoCode>string</atcoCode> <fromDate>string</fromDate> <toDate>string</toDate> <description>string</description> <commonName>string</commonName> <type>string</type> <mode>string</mode> <stationAtcoCode>string</stationAtcoCode> <appearance>string</appearance> <additionalInformation>string</additionalInformation> </ids-DisruptionGet200TextXmlResponse>~\x7d\x7d\x7d\x7d\x7d\x7d,~/\x7bid\x7d/DirectionTo/\x7btoStopPointId\x7d~:\x7b~get~:\x7b~tags~:[~StopPoint~],~summary~:~Returns the canonical direction, \\~inbound\\~ or \\~outbound\\~, for a given pair of stop point Ids in the direction from -&gt; to.~,~description~:~Returns the canonical direction, \\~inbound\\~ or \\~outbound\\~, for a given pair of stop point Ids in the direction from -&gt; to.~,~operationId~:~StopPoint_DirectionByPathIdPathToStopPointIdQueryLineId~,~parameters~:[\x7b~name~:~id~,~in~:~path~,~description~:~Originating stop id (station naptan code e.g. 940GZZLUASL, you can use /StopPoint/Search/\x7bquery\x7d endpoint to find a stop point id from a station name)~,~required~:true,~schema~:\x7b~type~:~string~\x7d,~example~:~940GZZLUASL~\x7d,\x7b~name~:~toStopPointId~,~in~:~path~,~description~:~Destination stop id (station naptan code e.g. 940GZZLUASL, you can use /StopPoint/Search/\x7bquery\x7d endpoint to find a stop point id from a station name)~,~required~:true,~schema~:\x7b~type~:~string~\x7d,~example~:~940GZZLUHWY~\x7d,\x7b~name~:~lineId~,~in~:~query~,~description~:~Optional line id filter e.g. victoria~,~schema~:\x7b~type~:~string~\x7d\x7d],~responses~:\x7b~200~:\x7b~description~:~OK~,~content~:\x7b~application/json~:\x7b~schema~:\x7b~type~:~string~\x7d,~example~:~string~\x7d,~text/json~:\x7b~schema~:\x7b~type~:~string~\x7d,~example~:~string~\x7d,~application/xml~:\x7b~schema~:\x7b~type~:~string~\x7d,~example~:~<id-DirectionTo-toStopPointId-Get200ApplicationXmlResponse>string</id-DirectionTo-toStopPointId-Get200ApplicationXmlResponse>~\x7d,~text/xml~:\x7b~schema~:\x7b~type~:~string~\x7d,~example~:~<id-DirectionTo-toStopPointId-Get200TextXmlResponse>string</id-DirectionTo-toStopPointId-Get200TextXmlResponse>~\x7d\x7d\x7d\x7d\x7d\x7d,~/~:\x7b~get~:\x7b~tags~:[~StopPoint~],~summary~:~Gets a list of StopPoints within \x7bradius\x7d by the specified criteria~,~description~:~Gets a list of StopPoints within \x7bradius\x7d by the specified criteria~,~operationId~:~StopPoint_GetByGeoPointByQueryLatQueryLonQueryStopTypesQueryRadiusQueryUseSt~,~parameters~:[\x7b~name~:~lat~,~in~:~query~,~description~:~Format - double. the latitude of the centre of the bounding circle~,~required~:true,~schema~:\x7b~type~:~number~,~format~:~double~\x7d,~example~:51.5\x7d,\x7b~name~:~lon~,~in~:~query~,~description~:~Format - double. the longitude of the centre of the bounding circle~,~required~:true,~schema~:\x7b~type~:~number~,~format~:~double~\x7d,~example~:0.12\x7d,\x7b~name~:~stopTypes~,~in~:~query~,~description~:~a list of stopTypes that should be returned (a list of valid stop types can be obtained from the StopPoint/meta/stoptypes endpoint)~,~required~:true,~schema~:\x7b~type~:~string~\x7d,~example~:~NaptanCoachBay~\x7d,\x7b~name~:~radius~,~in~:~query~,~description~:~Format - int32. the radius of the bounding circle in metres (default : 200)~,~schema~:\x7b~type~:~integer~,~format~:~int32~\x7d\x7d,\x7b~name~:~useStopPointHierarchy~,~in~:~query~,~description~:~Re-arrange the output into a parent/child hierarchy~,~schema~:\x7b~type~:~boolean~\x7d\x7d,\x7b~name~:~modes~,~in~:~query~,~description~:~the list of modes to search (comma separated mode names e.g. tube,dlr)~,~schema~:\x7b~type~:~array~,~items~:\x7b~type~:~string~\x7d\x7d\x7d,\x7b~name~:~categories~,~in~:~query~,~description~:~an optional list of comma separated property categories to return in the StopPoint's property bag. If null or empty, all categories of property are returned. Pass the keyword \\~none\\~ to return no properties (a valid list of categories can be obtained from the /StopPoint/Meta/categories endpoint)~,~schema~:\x7b~type~:~array~,~items~:\x7b~type~:~string~\x7d\x7d\x7d,\x7b~name~:~returnLines~,~in~:~query~,~description~:~true to return the lines that each stop point serves as a nested resource~,~schema~:\x7b~type~:~boolean~\x7d\x7d],~responses~:\x7b~200~:\x7b~description~:~OK~,~content~:\x7b~application/json~:\x7b~schema~:\x7b~$ref~:~#/components/schemas/Tfl.Api.Presentation.Entities.StopPointsResponse~\x7d\x7d,~text/json~:\x7b~schema~:\x7b~$ref~:~#/components/schemas/Tfl.Api.Presentation.Entities.StopPointsResponse~\x7d\x7d,~application/xml~:\x7b~schema~:\x7b~$ref~:~#/components/schemas/Tfl.Api.Presentation.Entities.StopPointsResponse~\x7d\x7d,~text/xml~:\x7b~schema~:\x7b~$ref~:~#/components/schemas/Tfl.Api.Presentation.Entities.StopPointsResponse~\x7d\x7d\x7d\x7d\x7d\x7d\x7d,~/Mode/\x7bmodes\x7d~:\x7b~get~:\x7b~tags~:[~StopPoint~],~summary~:~Gets a list of StopPoints filtered by the modes available at that StopPoint.~,~description~:~Gets a list of StopPoints filtered by the modes available at that StopPoint.~,~operationId~:~StopPoint_GetByModeByPathModesQueryPage~,~parameters~:[\x7b~name~:~modes~,~in~:~path~,~description~:~A comma-seperated list of modes e.g. tube,dlr~,~required~:true,~schema~:\x7b~type~:~string~\x7d,~example~:~Tube~\x7d,\x7b~name~:~page~,~in~:~query~,~description~:~Format - int32. The data set page to return. Page 1 equates to the first 1000 stop points, page 2 equates to 1001-2000 etc. Must be entered for bus mode as data set is too large.~,~schema~:\x7b~type~:~integer~,~format~:~int32~\x7d\x7d],~responses~:\x7b~200~:\x7b~description~:~OK~,~content~:\x7b~application/json~:\x7b~schema~:\x7b~$ref~:~#/components/schemas/Tfl.Api.Presentation.Entities.StopPointsResponse~\x7d\x7d,~text/json~:\x7b~schema~:\x7b~$ref~:~#/components/schemas/Tfl.Api.Presentation.Entities.StopPointsResponse~\x7d\x7d,~application/xml~:\x7b~schema~:\x7b~$ref~:~#/components/schemas/Tfl.Api.Presentation.Entities.StopPointsResponse~\x7d\x7d,~text/xml~:\x7b~schema~:\x7b~$ref~:~#/components/schemas/Tfl.Api.Presentation.Entities.StopPointsResponse~\x7d\x7d\x7d\x7d\x7d\x7d\x7d,~/Search/\x7bquery\x7d~:\x7b~get~:\x7b~tags~:[~StopPoint~],~summary~:~Search StopPoints by their common name, or their 5-digit Countdown Bus Stop Code.~,~description~:~Search StopPoints by their common name, or their 5-digit Countdown Bus Stop Code.~,~operationId~:~StopPoint_SearchByPathQueryQueryModesQueryFaresOnlyQueryMaxResultsQueryLines~,~parameters~:[\x7b~name~:~query~,~in~:~path~,~description~:~The query string, case-insensitive. Leading and trailing wildcards are applied automatically.~,~required~:true,~schema~:\x7b~type~:~string~\x7d,~example~:~Waterloo~\x7d,\x7b~name~:~modes~,~in~:~query~,~description~:~An optional, parameter separated list of the modes to filter by~,~schema~:\x7b~type~:~array~,~items~:\x7b~type~:~string~\x7d\x7d\x7d,\x7b~name~:~faresOnly~,~in~:~query~,~description~:~True to only return stations in that have Fares data available for single fares to another station.~,~schema~:\x7b~type~:~boolean~\x7d\x7d,\x7b~name~:~maxResults~,~in~:~query~,~description~:~Format - int32. An optional result limit, defaulting to and with a maximum of 50. Since children of the stop point heirarchy are returned for matches,\\r\\n            it is possible that the flattened result set will contain more than 50 items.~,~schema~:\x7b~type~:~integer~,~format~:~int32~\x7d\x7d,\x7b~name~:~lines~,~in~:~query~,~description~:~An optional, parameter separated list of the lines to filter by~,~schema~:\x7b~type~:~array~,~items~:\x7b~type~:~string~\x7d\x7d\x7d,\x7b~name~:~includeHubs~,~in~:~query~,~description~:~If true, returns results including HUBs.~,~schema~:\x7b~type~:~boolean~\x7d\x7d,\x7b~name~:~tflOperatedNationalRailStationsOnly~,~in~:~query~,~description~:~If the national-rail mode is included, this flag will filter the national rail stations so that only those operated by TfL are returned~,~schema~:\x7b~type~:~boolean~\x7d\x7d],~responses~:\x7b~200~:\x7b~description~:~OK~,~content~:\x7b~application/json~:\x7b~schema~:\x7b~$ref~:~#/components/schemas/Tfl.Api.Presentation.Entities.SearchResponse~\x7d,~example~:\x7b~query~:~string~,~from~:0,~page~:0,~pageSize~:0,~provider~:~string~,~total~:0,~matches~:[\x7b~id~:~string~,~url~:~string~,~name~:~string~,~lat~:0,~lon~:0\x7d],~maxScore~:0\x7d\x7d,~text/json~:\x7b~schema~:\x7b~$ref~:~#/components/schemas/Tfl.Api.Presentation.Entities.SearchResponse~\x7d,~example~:\x7b~query~:~string~,~from~:0,~page~:0,~pageSize~:0,~provider~:~string~,~total~:0,~matches~:[\x7b~id~:~string~,~url~:~string~,~name~:~string~,~lat~:0,~lon~:0\x7d],~maxScore~:0\x7d\x7d,~application/xml~:\x7b~schema~:\x7b~$ref~:~#/components/schemas/Tfl.Api.Presentation.Entities.SearchResponse~\x7d,~example~:~<Tfl.Api.Presentation.Entities.SearchResponse> <query>string</query> <from>0</from> <page>0</page> <pageSize>0</pageSize> <provider>string</provider> <total>0</total> <matches> <id>string</id> <url>string</url> <name>string</name> <lat>0</lat> <lon>0</lon> </matches> <maxScore>0</maxScore> </Tfl.Api.Presentation.Entities.SearchResponse>~\x7d,~text/xml~:\x7b~schema~:\x7b~$ref~:~#/components/schemas/Tfl.Api.Presentation.Entities.SearchResponse~\x7d,~example~:~<Tfl.Api.Presentation.Entities.SearchResponse> <query>string</query> <from>0</from> <page>0</page> <pageSize>0</pageSize> <provider>string</provider> <total>0</total> <matches> <id>string</id> <url>string</url> <name>string</name> <lat>0</lat> <lon>0</lon> </matches> <maxScore>0</maxScore> </Tfl.Api.Presentation.Entities.SearchResponse>~\x7d\x7d\x7d\x7d\x7d\x7d,~/Search~:\x7b~get~:\x7b~tags~:[~StopPoint~],~summary~:~Search StopPoints by their common name, or their 5-digit Countdown Bus Stop Code.~,~description~:~Search StopPoints by their common name, or their 5-digit Countdown Bus Stop Code.~,~operationId~:~StopPoint_SearchByQueryQueryQueryModesQueryFaresOnlyQueryMaxResultsQueryLine~,~parameters~:[\x7b~name~:~query~,~in~:~query~,~description~:~The query string, case-insensitive. Leading and trailing wildcards are applied automatically.~,~required~:true,~schema~:\x7b~type~:~string~\x7d,~example~:~Waterloo~\x7d,\x7b~name~:~modes~,~in~:~query~,~description~:~An optional, parameter separated list of the modes to filter by~,~schema~:\x7b~type~:~array~,~items~:\x7b~type~:~string~\x7d\x7d\x7d,\x7b~name~:~faresOnly~,~in~:~query~,~description~:~True to only return stations in that have Fares data available for single fares to another station.~,~schema~:\x7b~type~:~boolean~\x7d\x7d,\x7b~name~:~maxResults~,~in~:~query~,~description~:~Format - int32. An optional result limit, defaulting to and with a maximum of 50. Since children of the stop point heirarchy are returned for matches,\\r\\n            it is possible that the flattened result set will contain more than 50 items.~,~schema~:\x7b~type~:~integer~,~format~:~int32~\x7d\x7d,\x7b~name~:~lines~,~in~:~query~,~description~:~An optional, parameter separated list of the lines to filter by~,~schema~:\x7b~type~:~array~,~items~:\x7b~type~:~string~\x7d\x7d\x7d,\x7b~name~:~includeHubs~,~in~:~query~,~description~:~If true, returns results including HUBs.~,~schema~:\x7b~type~:~boolean~\x7d\x7d,\x7b~name~:~tflOperatedNationalRailStationsOnly~,~in~:~query~,~description~:~If the national-rail mode is included, this flag will filter the national rail stations so that only those operated by TfL are returned~,~schema~:\x7b~type~:~boolean~\x7d\x7d],~responses~:\x7b~200~:\x7b~description~:~OK~,~content~:\x7b~application/json~:\x7b~schema~:\x7b~$ref~:~#/components/schemas/Tfl.Api.Presentation.Entities.SearchResponse~\x7d,~example~:\x7b~query~:~string~,~from~:0,~page~:0,~pageSize~:0,~provider~:~string~,~total~:0,~matches~:[\x7b~id~:~string~,~url~:~string~,~name~:~string~,~lat~:0,~lon~:0\x7d],~maxScore~:0\x7d\x7d,~text/json~:\x7b~schema~:\x7b~$ref~:~#/components/schemas/Tfl.Api.Presentation.Entities.SearchResponse~\x7d,~example~:\x7b~query~:~string~,~from~:0,~page~:0,~pageSize~:0,~provider~:~string~,~total~:0,~matches~:[\x7b~id~:~string~,~url~:~string~,~name~:~string~,~lat~:0,~lon~:0\x7d],~maxScore~:0\x7d\x7d,~application/xml~:\x7b~schema~:\x7b~$ref~:~#/components/schemas/Tfl.Api.Presentation.Entities.SearchResponse~\x7d,~example~:~<Tfl.Api.Presentation.Entities.SearchResponse> <query>string</query> <from>0</from> <page>0</page> <pageSize>0</pageSize> <provider>string</provider> <total>0</total> <matches> <id>string</id> <url>string</url> <name>string</name> <lat>0</lat> <lon>0</lon> </matches> <maxScore>0</maxScore> </Tfl.Api.Presentation.Entities.SearchResponse>~\x7d,~text/xml~:\x7b~schema~:\x7b~$ref~:~#/components/schemas/Tfl.Api.Presentation.Entities.SearchResponse~\x7d,~example~:~<Tfl.Api.Presentation.Entities.SearchResponse> <query>string</query> <from>0</from> <page>0</page> <pageSize>0</pageSize> <provider>string</provider> <total>0</total> <matches> <id>string</id> <url>string</url> <name>string</name> <lat>0</lat> <lon>0</lon> </matches> <maxScore>0</maxScore> </Tfl.Api.Presentation.Entities.SearchResponse>~\x7d\x7d\x7d\x7d\x7d\x7d,~/Sms/\x7bid\x7d~:\x7b~get~:\x7b~tags~:[~StopPoint~],~summary~:~Gets a StopPoint for a given sms code.~,~description~:~Gets a StopPoint for a given sms code.~,~operationId~:~StopPoint_GetBySmsByPathIdQueryOutput~,~parameters~:[\x7b~name~:~id~,~in~:~path~,~description~:~A 5-digit Countdown Bus Stop Code e.g. 73241, 50435, 56334.~,~required~:true,~schema~:\x7b~type~:~string~\x7d,~example~:73241\x7d,\x7b~name~:~output~,~in~:~query~,~description~:~If set to \\~web\\~, a 302 redirect to relevant website bus stop page is returned. Valid values are : web. All other values are ignored.~,~schema~:\x7b~type~:~string~\x7d\x7d],~responses~:\x7b~200~:\x7b~description~:~OK~,~content~:\x7b~application/json~:\x7b~schema~:\x7b~$ref~:~#/components/schemas/System.Object~\x7d\x7d,~text/json~:\x7b~schema~:\x7b~$ref~:~#/components/schemas/System.Object~\x7d\x7d,~application/xml~:\x7b~schema~:\x7b~$ref~:~#/components/schemas/System.Object~\x7d,~example~:~<System.Object />~\x7d,~text/xml~:\x7b~schema~:\x7b~$ref~:~#/components/schemas/System.Object~\x7d,~example~:~<System.Object />~\x7d\x7d\x7d\x7d\x7d\x7d,~/\x7bstopPointId\x7d/TaxiRanks~:\x7b~get~:\x7b~tags~:[~StopPoint~],~summary~:~Gets a list of taxi ranks corresponding to the given stop point id.~,~description~:~Gets a list of taxi ranks corresponding to the given stop point id.~,~operationId~:~StopPoint_GetTaxiRanksByIdsByPathStopPointId~,~parameters~:[\x7b~name~:~stopPointId~,~in~:~path~,~description~:~stopPointId is required to get the taxi ranks.~,~required~:true,~schema~:\x7b~type~:~string~\x7d,~example~:~HUBWAT~\x7d],~responses~:\x7b~200~:\x7b~description~:~OK~,~content~:\x7b~application/json~:\x7b~schema~:\x7b~type~:~array~,~items~:\x7b~$ref~:~#/components/schemas/Tfl.Api.Presentation.Entities.Place~\x7d\x7d\x7d,~text/json~:\x7b~schema~:\x7b~type~:~array~,~items~:\x7b~$ref~:~#/components/schemas/Tfl.Api.Presentation.Entities.Place~\x7d\x7d\x7d,~application/xml~:\x7b~schema~:\x7b~type~:~array~,~items~:\x7b~$ref~:~#/components/schemas/Tfl.Api.Presentation.Entities.Place~\x7d\x7d\x7d,~text/xml~:\x7b~schema~:\x7b~type~:~array~,~items~:\x7b~$ref~:~#/components/schemas/Tfl.Api.Presentation.Entities.Place~\x7d\x7d\x7d\x7d\x7d\x7d\x7d\x7d,~/\x7bstopPointId\x7d/CarParks~:\x7b~get~:\x7b~tags~:[~StopPoint~],~summary~:~Get car parks corresponding to the given stop point id.~,~description~:~Get car parks corresponding to the given stop point id.~,~operationId~:~StopPoint_GetCarParksByIdByPathStopPointId~,~parameters~:[\x7b~name~:~stopPointId~,~in~:~path~,~description~:~stopPointId is required to get the car parks.~,~required~:true,~schema~:\x7b~type~:~string~\x7d,~example~:~HUBWAT~\x7d],~responses~:\x7b~200~:\x7b~description~:~OK~,~content~:\x7b~application/json~:\x7b~schema~:\x7b~type~:~array~,~items~:\x7b~$ref~:~#/components/schemas/Tfl.Api.Presentation.Entities.Place~\x7d\x7d\x7d,~text/json~:\x7b~schema~:\x7b~type~:~array~,~items~:\x7b~$ref~:~#/components/schemas/Tfl.Api.Presentation.Entities.Place~\x7d\x7d\x7d,~application/xml~:\x7b~schema~:\x7b~type~:~array~,~items~:\x7b~$ref~:~#/components/schemas/Tfl.Api.Presentation.Entities.Place~\x7d\x7d\x7d,~text/xml~:\x7b~schema~:\x7b~type~:~array~,~items~:\x7b~$ref~:~#/components/schemas/Tfl.Api.Presentation.Entities.Place~\x7d\x7d\x7d\x7d\x7d\x7d\x7d\x7d\x7d,~components~:\x7b~schemas~:\x7b~Tfl.Api.Presentation.Entities.StopPointCategory~:\x7b~type~:~object~,~properties~:\x7b~category~:\x7b~type~:~string~\x7d,~availableKeys~:\x7b~type~:~array~,~items~:\x7b~type~:~string~\x7d\x7d\x7d\x7d,~Tfl.Api.Presentation.Entities.Mode~:\x7b~type~:~object~,~properties~:\x7b~isTflService~:\x7b~type~:~boolean~\x7d,~isFarePaying~:\x7b~type~:~boolean~\x7d,~isScheduledService~:\x7b~type~:~boolean~\x7d,~modeName~:\x7b~type~:~string~\x7d\x7d\x7d,~Tfl.Api.Presentation.Entities.PassengerFlow~:\x7b~type~:~object~,~properties~:\x7b~timeSlice~:\x7b~type~:~string~,~description~:~Time in 24hr format with 15 minute intervals e.g. 0500-0515, 0515-0530 etc.~\x7d,~value~:\x7b~type~:~integer~,~description~:~Count of passenger flow towards a platform~,~format~:~int32~\x7d\x7d\x7d,~Tfl.Api.Presentation.Entities.TrainLoading~:\x7b~type~:~object~,~properties~:\x7b~line~:\x7b~type~:~string~,~description~:~The Line Name e.g. \\~Victoria\\~~\x7d,~lineDirection~:\x7b~type~:~string~,~description~:~Direction of the Line e.g. NB, SB, WB etc.~\x7d,~platformDirection~:\x7b~type~:~string~,~description~:~Direction displayed on the platform e.g. NB, SB, WB etc.~\x7d,~direction~:\x7b~type~:~string~,~description~:~Direction in regards to Journey Planner i.e. inbound or outbound~\x7d,~naptanTo~:\x7b~type~:~string~,~description~:~Naptan of the adjacent station~\x7d,~timeSlice~:\x7b~type~:~string~,~description~:~Time in 24hr format with 15 minute intervals e.g. 0500-0515, 0515-0530 etc.~\x7d,~value~:\x7b~type~:~integer~,~description~:~Scale between 1-6, \\r\\n             1 = Very quiet, 2 = Quiet, 3 = Fairly busy, 4 = Busy, 5 = Very busy, 6 = Exceptionally busy~,~format~:~int32~\x7d\x7d\x7d,~Tfl.Api.Presentation.Entities.Crowding~:\x7b~type~:~object~,~properties~:\x7b~passengerFlows~:\x7b~type~:~array~,~items~:\x7b~$ref~:~#/components/schemas/Tfl.Api.Presentation.Entities.PassengerFlow~\x7d,~description~:~Busiest times at a station (static information)~\x7d,~trainLoadings~:\x7b~type~:~array~,~items~:\x7b~$ref~:~#/components/schemas/Tfl.Api.Presentation.Entities.TrainLoading~\x7d,~description~:~Train Loading on a scale 1-6, 1 being \\~Very quiet\\~ and 6 being \\~Exceptionally busy\\~ (static information)~\x7d\x7d\x7d,~Tfl.Api.Presentation.Entities.Identifier~:\x7b~type~:~object~,~properties~:\x7b~id~:\x7b~type~:~string~\x7d,~name~:\x7b~type~:~string~\x7d,~uri~:\x7b~type~:~string~\x7d,~fullName~:\x7b~type~:~string~\x7d,~type~:\x7b~type~:~string~\x7d,~crowding~:\x7b~$ref~:~#/components/schemas/Tfl.Api.Presentation.Entities.Crowding~\x7d,~routeType~:\x7b~enum~:[~Unknown~,~All~,~Cycle Superhighways~,~Quietways~,~Cycleways~,~Mini-Hollands~,~Central London Grid~,~Streetspace Route~],~type~:~string~\x7d,~status~:\x7b~enum~:[~Unknown~,~All~,~Open~,~In Progress~,~Planned~,~Planned - Subject to feasibility and consultation.~,~Not Open~],~type~:~string~\x7d\x7d\x7d,~Tfl.Api.Presentation.Entities.LineGroup~:\x7b~type~:~object~,~properties~:\x7b~naptanIdReference~:\x7b~type~:~string~\x7d,~stationAtcoCode~:\x7b~type~:~string~\x7d,~lineIdentifier~:\x7b~type~:~array~,~items~:\x7b~type~:~string~\x7d\x7d\x7d\x7d,~Tfl.Api.Presentation.Entities.LineModeGroup~:\x7b~type~:~object~,~properties~:\x7b~modeName~:\x7b~type~:~string~\x7d,~lineIdentifier~:\x7b~type~:~array~,~items~:\x7b~type~:~string~\x7d\x7d\x7d\x7d,~Tfl.Api.Presentation.Entities.AdditionalProperties~:\x7b~type~:~object~,~properties~:\x7b~category~:\x7b~type~:~string~\x7d,~key~:\x7b~type~:~string~\x7d,~sourceSystemKey~:\x7b~type~:~string~\x7d,~value~:\x7b~type~:~string~\x7d,~modified~:\x7b~type~:~string~,~format~:~date-time~\x7d\x7d\x7d,~Tfl.Api.Presentation.Entities.Place~:\x7b~type~:~object~,~properties~:\x7b~id~:\x7b~type~:~string~,~description~:~A unique identifier.~\x7d,~url~:\x7b~type~:~string~,~description~:~The unique location of this resource.~\x7d,~commonName~:\x7b~type~:~string~,~description~:~A human readable name.~\x7d,~distance~:\x7b~type~:~number~,~description~:~The distance of the place from its search point, if this is the result\\r\\n            of a geographical search, otherwise zero.~,~format~:~double~\x7d,~placeType~:\x7b~type~:~string~,~description~:~The type of Place. See /Place/Meta/placeTypes for possible values.~\x7d,~additionalProperties~:\x7b~type~:~array~,~items~:\x7b~$ref~:~#/components/schemas/Tfl.Api.Presentation.Entities.AdditionalProperties~\x7d,~description~:~A bag of additional key/value pairs with extra information about this place.~\x7d,~children~:\x7b~type~:~array~,~items~:\x7b~$ref~:~#/components/schemas/Tfl.Api.Presentation.Entities.Place~\x7d\x7d,~childrenUrls~:\x7b~type~:~array~,~items~:\x7b~type~:~string~\x7d\x7d,~lat~:\x7b~type~:~number~,~description~:~WGS84 latitude of the location.~,~format~:~double~\x7d,~lon~:\x7b~type~:~number~,~description~:~WGS84 longitude of the location.~,~format~:~double~\x7d\x7d\x7d,~Tfl.Api.Presentation.Entities.StopPoint~:\x7b~type~:~object~,~properties~:\x7b~naptanId~:\x7b~type~:~string~\x7d,~platformName~:\x7b~type~:~string~\x7d,~indicator~:\x7b~type~:~string~,~description~:~The indicator of the stop point e.g. \\~Stop K\\~~\x7d,~stopLetter~:\x7b~type~:~string~,~description~:~The stop letter, if it could be cleansed from the Indicator e.g. \\~K\\~~\x7d,~modes~:\x7b~type~:~array~,~items~:\x7b~type~:~string~\x7d\x7d,~icsCode~:\x7b~type~:~string~\x7d,~smsCode~:\x7b~type~:~string~\x7d,~stopType~:\x7b~type~:~string~\x7d,~stationNaptan~:\x7b~type~:~string~\x7d,~accessibilitySummary~:\x7b~type~:~string~\x7d,~hubNaptanCode~:\x7b~type~:~string~\x7d,~lines~:\x7b~type~:~array~,~items~:\x7b~$ref~:~#/components/schemas/Tfl.Api.Presentation.Entities.Identifier~\x7d\x7d,~lineGroup~:\x7b~type~:~array~,~items~:\x7b~$ref~:~#/components/schemas/Tfl.Api.Presentation.Entities.LineGroup~\x7d\x7d,~lineModeGroups~:\x7b~type~:~array~,~items~:\x7b~$ref~:~#/components/schemas/Tfl.Api.Presentation.Entities.LineModeGroup~\x7d\x7d,~fullName~:\x7b~type~:~string~\x7d,~naptanMode~:\x7b~type~:~string~\x7d,~status~:\x7b~type~:~boolean~\x7d,~id~:\x7b~type~:~string~,~description~:~A unique identifier.~\x7d,~url~:\x7b~type~:~string~,~description~:~The unique location of this resource.~\x7d,~commonName~:\x7b~type~:~string~,~description~:~A human readable name.~\x7d,~distance~:\x7b~type~:~number~,~description~:~The distance of the place from its search point, if this is the result\\r\\n            of a geographical search, otherwise zero.~,~format~:~double~\x7d,~placeType~:\x7b~type~:~string~,~description~:~The type of Place. See /Place/Meta/placeTypes for possible values.~\x7d,~additionalProperties~:\x7b~type~:~array~,~items~:\x7b~$ref~:~#/components/schemas/Tfl.Api.Presentation.Entities.AdditionalProperties~\x7d,~description~:~A bag of additional key/value pairs with extra information about this place.~\x7d,~children~:\x7b~type~:~array~,~items~:\x7b~$ref~:~#/components/schemas/Tfl.Api.Presentation.Entities.Place~\x7d\x7d,~childrenUrls~:\x7b~type~:~array~,~items~:\x7b~type~:~string~\x7d\x7d,~lat~:\x7b~type~:~number~,~description~:~WGS84 latitude of the location.~,~format~:~double~\x7d,~lon~:\x7b~type~:~number~,~description~:~WGS84 longitude of the location.~,~format~:~double~\x7d\x7d\x7d,~Tfl.Api.Presentation.Entities.LineServiceTypeInfo~:\x7b~type~:~object~,~properties~:\x7b~name~:\x7b~type~:~string~\x7d,~uri~:\x7b~type~:~string~\x7d\x7d\x7d,~Tfl.Api.Presentation.Entities.LineSpecificServiceType~:\x7b~type~:~object~,~properties~:\x7b~serviceType~:\x7b~$ref~:~#/components/schemas/Tfl.Api.Presentation.Entities.LineServiceTypeInfo~\x7d,~stopServesServiceType~:\x7b~type~:~boolean~\x7d\x7d\x7d,~Tfl.Api.Presentation.Entities.LineServiceType~:\x7b~type~:~object~,~properties~:\x7b~lineName~:\x7b~type~:~string~\x7d,~lineSpecificServiceTypes~:\x7b~type~:~array~,~items~:\x7b~$ref~:~#/components/schemas/Tfl.Api.Presentation.Entities.LineSpecificServiceType~\x7d\x7d\x7d\x7d,~Tfl.Api.Presentation.Entities.PredictionTiming~:\x7b~type~:~object~,~properties~:\x7b~countdownServerAdjustment~:\x7b~type~:~string~\x7d,~source~:\x7b~type~:~string~,~format~:~date-time~\x7d,~insert~:\x7b~type~:~string~,~format~:~date-time~\x7d,~read~:\x7b~type~:~string~,~format~:~date-time~\x7d,~sent~:\x7b~type~:~string~,~format~:~date-time~\x7d,~received~:\x7b~type~:~string~,~format~:~date-time~\x7d\x7d\x7d,~Tfl.Api.Presentation.Entities.Prediction~:\x7b~type~:~object~,~properties~:\x7b~id~:\x7b~type~:~string~,~description~:~The identitier for the prediction~\x7d,~operationType~:\x7b~type~:~integer~,~description~:~The type of the operation (1: is new or has been updated, 2: should be deleted from any client cache)~,~format~:~int32~\x7d,~vehicleId~:\x7b~type~:~string~,~description~:~The actual vehicle in transit (for train modes, the leading car of the rolling set)~\x7d,~naptanId~:\x7b~type~:~string~,~description~:~Identifier for the prediction~\x7d,~stationName~:\x7b~type~:~string~,~description~:~Station name~\x7d,~lineId~:\x7b~type~:~string~,~description~:~Unique identifier for the Line~\x7d,~lineName~:\x7b~type~:~string~,~description~:~Line Name~\x7d,~platformName~:\x7b~type~:~string~,~description~:~Platform name (for bus, this is the stop letter)~\x7d,~direction~:\x7b~type~:~string~,~description~:~Direction (unified to inbound/outbound)~\x7d,~bearing~:\x7b~type~:~string~,~description~:~Bearing (between 0 to 359)~\x7d,~destinationNaptanId~:\x7b~type~:~string~,~description~:~Naptan Identifier for the prediction's destination~\x7d,~destinationName~:\x7b~type~:~string~,~description~:~Name of the destination~\x7d,~timestamp~:\x7b~type~:~string~,~description~:~Timestamp for when the prediction was inserted/modified (source column drives what objects are broadcast on each iteration)~,~format~:~date-time~\x7d,~timeToStation~:\x7b~type~:~integer~,~description~:~Prediction of the Time to station in seconds~,~format~:~int32~\x7d,~currentLocation~:\x7b~type~:~string~,~description~:~The current location of the vehicle.~\x7d,~towards~:\x7b~type~:~string~,~description~:~Routing information or other descriptive text about the path of the vehicle towards the destination~\x7d,~expectedArrival~:\x7b~type~:~string~,~description~:~The expected arrival time of the vehicle at the stop/station~,~format~:~date-time~\x7d,~timeToLive~:\x7b~type~:~string~,~description~:~The expiry time for the prediction~,~format~:~date-time~\x7d,~modeName~:\x7b~type~:~string~,~description~:~The mode name of the station/line the prediction relates to~\x7d,~timing~:\x7b~$ref~:~#/components/schemas/Tfl.Api.Presentation.Entities.PredictionTiming~\x7d\x7d,~description~:~DTO to capture the prediction details~\x7d,~Tfl.Api.Presentation.Entities.ArrivalDeparture~:\x7b~type~:~object~,~properties~:\x7b~platformName~:\x7b~type~:~string~,~description~:~Platform name (for bus, this is the stop letter)~\x7d,~destinationNaptanId~:\x7b~type~:~string~,~description~:~Naptan Identifier for the prediction's destination~\x7d,~destinationName~:\x7b~type~:~string~,~description~:~Name of the destination~\x7d,~naptanId~:\x7b~type~:~string~,~description~:~Identifier for the prediction~\x7d,~stationName~:\x7b~type~:~string~,~description~:~Station name~\x7d,~estimatedTimeOfArrival~:\x7b~type~:~string~,~description~:~Estimated time of arrival~,~format~:~date-time~\x7d,~scheduledTimeOfArrival~:\x7b~type~:~string~,~description~:~Estimated time of arrival~,~format~:~date-time~\x7d,~estimatedTimeOfDeparture~:\x7b~type~:~string~,~description~:~Estimated time of arrival~,~format~:~date-time~\x7d,~scheduledTimeOfDeparture~:\x7b~type~:~string~,~description~:~Estimated time of arrival~,~format~:~date-time~\x7d,~minutesAndSecondsToArrival~:\x7b~type~:~string~,~description~:~Estimated time of arrival~\x7d,~minutesAndSecondsToDeparture~:\x7b~type~:~string~,~description~:~Estimated time of arrival~\x7d,~cause~:\x7b~type~:~string~,~description~:~Reason for cancellation or delay~\x7d,~departureStatus~:\x7b~enum~:[~OnTime~,~Delayed~,~Cancelled~,~NotStoppingAtStation~],~type~:~string~,~description~:~Status of departure~\x7d,~timing~:\x7b~$ref~:~#/components/schemas/Tfl.Api.Presentation.Entities.PredictionTiming~\x7d\x7d,~description~:~DTO to capture the prediction details~\x7d,~Tfl.Api.Presentation.Entities.StopPointRouteSection~:\x7b~type~:~object~,~properties~:\x7b~naptanId~:\x7b~type~:~string~\x7d,~lineId~:\x7b~type~:~string~\x7d,~mode~:\x7b~type~:~string~\x7d,~validFrom~:\x7b~type~:~string~,~format~:~date-time~\x7d,~validTo~:\x7b~type~:~string~,~format~:~date-time~\x7d,~direction~:\x7b~type~:~string~\x7d,~routeSectionName~:\x7b~type~:~string~\x7d,~lineString~:\x7b~type~:~string~\x7d,~isActive~:\x7b~type~:~boolean~\x7d,~serviceType~:\x7b~type~:~string~\x7d,~vehicleDestinationText~:\x7b~type~:~string~\x7d,~destinationName~:\x7b~type~:~string~\x7d\x7d\x7d,~Tfl.Api.Presentation.Entities.DisruptedPoint~:\x7b~type~:~object~,~properties~:\x7b~atcoCode~:\x7b~type~:~string~\x7d,~fromDate~:\x7b~type~:~string~,~format~:~date-time~\x7d,~toDate~:\x7b~type~:~string~,~format~:~date-time~\x7d,~description~:\x7b~type~:~string~\x7d,~commonName~:\x7b~type~:~string~\x7d,~type~:\x7b~type~:~string~\x7d,~mode~:\x7b~type~:~string~\x7d,~stationAtcoCode~:\x7b~type~:~string~\x7d,~appearance~:\x7b~type~:~string~\x7d,~additionalInformation~:\x7b~type~:~string~\x7d\x7d\x7d,~Tfl.Api.Presentation.Entities.StopPointsResponse~:\x7b~type~:~object~,~properties~:\x7b~centrePoint~:\x7b~type~:~array~,~items~:\x7b~type~:~number~,~format~:~double~\x7d,~description~:~The centre latitude/longitude of this list of StopPoints~\x7d,~stopPoints~:\x7b~type~:~array~,~items~:\x7b~$ref~:~#/components/schemas/Tfl.Api.Presentation.Entities.StopPoint~\x7d,~description~:~Collection of stop points~\x7d,~pageSize~:\x7b~type~:~integer~,~description~:~The maximum size of the page in this response i.e. the maximum number of StopPoints~,~format~:~int32~\x7d,~total~:\x7b~type~:~integer~,~description~:~The total number of StopPoints available across all pages~,~format~:~int32~\x7d,~page~:\x7b~type~:~integer~,~description~:~The index of this page~,~format~:~int32~\x7d\x7d,~description~:~A paged response containing StopPoints~\x7d,~Tfl.Api.Presentation.Entities.SearchMatch~:\x7b~type~:~object~,~properties~:\x7b~id~:\x7b~type~:~string~\x7d,~url~:\x7b~type~:~string~\x7d,~name~:\x7b~type~:~string~\x7d,~lat~:\x7b~type~:~number~,~format~:~double~\x7d,~lon~:\x7b~type~:~number~,~format~:~double~\x7d\x7d\x7d,~Tfl.Api.Presentation.Entities.SearchResponse~:\x7b~type~:~object~,~properties~:\x7b~query~:\x7b~type~:~string~\x7d,~from~:\x7b~type~:~integer~,~format~:~int32~\x7d,~page~:\x7b~type~:~integer~,~format~:~int32~\x7d,~pageSize~:\x7b~type~:~integer~,~format~:~int32~\x7d,~provider~:\x7b~type~:~string~\x7d,~total~:\x7b~type~:~integer~,~format~:~int32~\x7d,~matches~:\x7b~type~:~array~,~items~:\x7b~$ref~:~#/components/schemas/Tfl.Api.Presentation.Entities.SearchMatch~\x7d\x7d,~maxScore~:\x7b~type~:~number~,~format~:~double~\x7d\x7d\x7d,~System.Object~:\x7b~type~:~object~\x7d\x7d,~securitySchemes~:\x7b~apiKeyHeader~:\x7b~type~:~apiKey~,~name~:~app_key~,~in~:~header~\x7d,~apiKeyQuery~:\x7b~type~:~apiKey~,~name~:~app_key~,~in~:~query~\x7d\x7d\x7d,~security~:[\x7b~apiKeyHeader~:[]\x7d,\x7b~apiKeyQuery~:[]\x7d]\x7d"),
  ("Vehicle",
   "\x7b~openapi~:~3.0.1~,~info~:\x7b~title~:~Vehicle~,~description~:~APIs relating to Vehicle and similar services~,~version~:~1.0~\x7d,~servers~:[\x7b~url~:~https://api.tfl.gov.uk/Vehicle~\x7d],~paths~:\x7b~/\x7bids\x7d/Arrivals~:\x7b~get~:\x7b~tags~:[~Vehicle~],~summary~:~Gets the predictions for a given list of vehicle Id's.~,~description~:~Gets the predictions for a given list of vehicle Id's.~,~operationId~:~Vehicle_GetByPathIds~,~parameters~:[\x7b~name~:~ids~,~in~:~path~,~description~:~A comma-separated list of vehicle ids e.g. LX58CFV,LX11AZB,LX58CFE. Max approx. 25 ids.~,~required~:true,~schema~:\x7b~type~:~string~\x7d,~example~:~LX11AZB~\x7d],~responses~:\x7b~200~:\x7b~description~:~OK~,~content~:\x7b~application/json~:\x7b~schema~:\x7b~$ref~:~#/components/schemas/ids-ArrivalsGet200ApplicationJsonResponse~\x7d,~example~:[\x7b~id~:~string~,~operationType~:0,~vehicleId~:~string~,~naptanId~:~string~,~stationName~:~string~,~lineId~:~string~,~lineName~:~string~,~platformName~:~string~,~direction~:~string~,~bearing~:~string~,~destinationNaptanId~:~string~,~destinationName~:~string~,~timestamp~:~string~,~timeToStation~:0,~currentLocation~:~string~,~towards~:~string~,~expectedArrival~:~string~,~timeToLive~:~string~,~modeName~:~string~,~timing~:\x7b~countdownServerAdjustment~:~string~,~source~:~string~,~insert~:~string~,~read~:~string~,~sent~:~string~,~received~:~string~\x7d\x7d]\x7d,~text/json~:\x7b~schema~:\x7b~$ref~:~#/components/schemas/ids-ArrivalsGet200TextJsonResponse~\x7d,~example~:[\x7b~id~:~string~,~operationType~:0,~vehicleId~:~string~,~naptanId~:~string~,~stationName~:~string~,~lineId~:~string~,~lineName~:~string~,~platformName~:~string~,~direction~:~string~,~bearing~:~string~,~destinationNaptanId~:~string~,~destinationName~:~string~,~timestamp~:~string~,~timeToStation~:0,~currentLocation~:~string~,~towards~:~string~,~expectedArrival~:~string~,~timeToLive~:~string~,~modeName~:~string~,~timing~:\x7b~countdownServerAdjustment~:~string~,~source~:~string~,~insert~:~string~,~read~:~string~,~sent~:~string~,~received~:~string~\x7d\x7d]\x7d,~application/xml~:\x7b~schema~:\x7b~$ref~:~#/components/schemas/ids-ArrivalsGet200ApplicationXmlResponse~\x7d,~example~:~<ids-ArrivalsGet200ApplicationXmlResponse> <id>string</id> <operationType>0</operationType> <vehicleId>string</vehicleId> <naptanId>string</naptanId> <stationName>string</stationName> <lineId>string</lineId> <lineName>string</lineName> <platformName>string</platformName> <direction>string</direction> <bearing>string</bearing> <destinationNaptanId>string</destinationNaptanId> <destinationName>string</destinationName> <timestamp>string</timestamp> <timeToStation>0</timeToStation> <currentLocation>string</currentLocation> <towards>string</towards> <expectedArrival>string</expectedArrival> <timeToLive>string</timeToLive> <modeName>string</modeName> <timing> <countdownServerAdjustment>string</countdownServerAdjustment> <source>string</source> <insert>string</insert> <read>string</read> <sent>string</sent> <received>string</received> </timing> </ids-ArrivalsGet200ApplicationXmlResponse>~\x7d,~text/xml~:\x7b~schema~:\x7b~$ref~:~#/components/schemas/ids-ArrivalsGet200TextXmlResponse~\x7d,~example~:~<ids-ArrivalsGet200TextXmlResponse> <id>string</id> <operationType>0</operationType> <vehicleId>string</vehicleId> <naptanId>string</naptanId> <stationName>string</stationName> <lineId>string</lineId> <lineName>string</lineName> <platformName>string</platformName> <direction>string</direction> <bearing>string</bearing> <destinationNaptanId>string</destinationNaptanId> <destinationName>string</destinationName> <timestamp>string</timestamp> <timeToStation>0</timeToStation> <currentLocation>string</currentLocation> <towards>string</towards> <expectedArrival>string</expectedArrival> <timeToLive>string</timeToLive> <modeName>string</modeName> <timing> <countdownServerAdjustment>string</countdownServerAdjustment> <source>string</source> <insert>string</insert> <read>string</read> <sent>string</sent> <received>string</received> </timing> </ids-ArrivalsGet200TextXmlResponse>~\x7d\x7d\x7d\x7d\x7d\x7d\x7d,~components~:\x7b~schemas~:\x7b~Tfl~:\x7b~type~:~object~,~properties~:\x7b~countdownServerAdjustment~:\x7b~type~:~string~\x7d,~source~:\x7b~type~:~string~,~format~:~date-time~\x7d,~insert~:\x7b~type~:~string~,~format~:~date-time~\x7d,~read~:\x7b~type~:~string~,~format~:~date-time~\x7d,~sent~:\x7b~type~:~string~,~format~:~date-time~\x7d,~received~:\x7b~type~:~string~,~format~:~date-time~\x7d\x7d\x7d,~Tfl-2~:\x7b~type~:~object~,~properties~:\x7b~id~:\x7b~type~:~string~,~description~:~The identitier for the prediction~\x7d,~operationType~:\x7b~type~:~integer~,~description~:~The type of the operation (1: is new or has been updated, 2: should be deleted from any client cache)~,~format~:~int32~\x7d,~vehicleId~:\x7b~type~:~string~,~description~:~The actual vehicle in transit (for train modes, the leading car of the rolling set)~\x7d,~naptanId~:\x7b~type~:~string~,~description~:~Identifier for the prediction~\x7d,~stationName~:\x7b~type~:~string~,~description~:~Station name~\x7d,~lineId~:\x7b~type~:~string~,~description~:~Unique identifier for the Line~\x7d,~lineName~:\x7b~type~:~string~,~description~:~Line Name~\x7d,~platformName~:\x7b~type~:~string~,~description~:~Platform name (for bus, this is the stop letter)~\x7d,~direction~:\x7b~type~:~string~,~description~:~Direction (unified to inbound/outbound)~\x7d,~bearing~:\x7b~type~:~string~,~description~:~Bearing (between 0 to 359)~\x7d,~destinationNaptanId~:\x7b~type~:~string~,~description~:~Naptan Identifier for the prediction's destination~\x7d,~destinationName~:\x7b~type~:~string~,~description~:~Name of the destination~\x7d,~timestamp~:\x7b~type~:~string~,~description~:~Timestamp for when the prediction was inserted/modified (source column drives what objects are broadcast on each iteration)~,~format~:~date-time~\x7d,~timeToStation~:\x7b~type~:~integer~,~description~:~Prediction of the Time to station in seconds~,~format~:~int32~\x7d,~currentLocation~:\x7b~type~:~string~,~description~:~The current location of the vehicle.~\x7d,~towards~:\x7b~type~:~string~,~description~:~Routing information or other descriptive text about the path of the vehicle towards the destination~\x7d,~expectedArrival~:\x7b~type~:~string~,~description~:~The expected arrival time of the vehicle at the stop/station~,~format~:~date-time~\x7d,~timeToLive~:\x7b~type~:~string~,~description~:~The expiry time for the prediction~,~format~:~date-time~\x7d,~modeName~:\x7b~type~:~string~,~description~:~The mode name of the station/line the prediction relates to~\x7d,~timing~:\x7b~$ref~:~#/components/schemas/Tfl~\x7d\x7d,~description~:~DTO to capture the prediction details~\x7d,~Tfl-3~:\x7b~type~:~object~,~properties~:\x7b~vrm~:\x7b~type~:~string~\x7d,~type~:\x7b~type~:~string~\x7d,~make~:\x7b~type~:~string~\x7d,~model~:\x7b~type~:~string~\x7d,~colour~:\x7b~type~:~string~\x7d,~compliance~:\x7b~enum~:[~NotAvailable~,~NotCompliant~,~Compliant~,~Exempt~],~type~:~string~\x7d\x7d,~description~:~~\x7d,~ids-ArrivalsGet200ApplicationJsonResponse~:\x7b~type~:~array~,~items~:\x7b~$ref~:~#/components/schemas/Tfl-2~\x7d\x7d,~ids-ArrivalsGet200TextJsonResponse~:\x7b~type~:~array~,~items~:\x7b~$ref~:~#/components/schemas/Tfl-2~\x7d\x7d,~ids-ArrivalsGet200ApplicationXmlResponse~:\x7b~type~:~array~,~items~:\x7b~$ref~:~#/components/schemas/Tfl-2~\x7d\x7d,~ids-ArrivalsGet200TextXmlResponse~:\x7b~type~:~array~,~items~:\x7b~$ref~:~#/components/schemas/Tfl-2~\x7d\x7d\x7d,~securitySchemes~:\x7b~apiKeyHeader~:\x7b~type~:~apiKey~,~name~:~app_key~,~in~:~header~\x7d,~apiKeyQuery~:\x7b~type~:~apiKey~,~name~:~app_key~,~in~:~query~\x7d\x7d\x7d,~security~:[\x7b~apiKeyHeader~:[]\x7d,\x7b~apiKeyQuery~:[]\x7d]\x7d"),
  ("crowding",
   "\x7b~openapi~:~3.0.1~,~info~:\x7b~title~:~Crowding~,~description~:~Information about crowding levels within Tfl Stations~,~version~:~1.0~\x7d,~servers~:[\x7b~url~:~https://api.tfl.gov.uk/crowding~\x7d],~paths~:\x7b~/\x7bNaptan\x7d~:\x7b~get~:\x7b~summary~:~Naptan~,~description~:~Returns crowding information for Naptan~,~operationId~:~naptan~,~parameters~:[\x7b~name~:~Naptan~,~in~:~path~,~description~:~Naptan code~,~required~:true,~schema~:\x7b~type~:~string~\x7d,~example~:~940GZZLUBND~\x7d],~responses~:\x7b~200~:\x7b~description~:~null~\x7d\x7d\x7d\x7d,~/\x7bNaptan\x7d/\x7bDayOfWeek\x7d~:\x7b~get~:\x7b~summary~:~Day of Week~,~description~:~Returns crowding information for Naptan for Day of Week~,~operationId~:~dayofweek~,~parameters~:[\x7b~name~:~Naptan~,~in~:~path~,~description~:~Naptan code~,~required~:true,~schema~:\x7b~type~:~string~\x7d,~example~:~940GZZLUBND~\x7d,\x7b~name~:~DayOfWeek~,~in~:~path~,~description~:~Day of week~,~required~:true,~schema~:\x7b~type~:~string~\x7d,~example~:~Wed~\x7d],~responses~:\x7b~200~:\x7b~description~:~null~\x7d\x7d\x7d\x7d,~/\x7bNaptan\x7d/Live~:\x7b~get~:\x7b~summary~:~Live~,~description~:~Returns live crowding information for Naptan~,~operationId~:~live~,~parameters~:[\x7b~name~:~Naptan~,~in~:~path~,~description~:~Naptan code~,~required~:true,~schema~:\x7b~type~:~string~\x7d,~example~:~940GZZLUBND~\x7d],~responses~:\x7b~200~:\x7b~description~:~null~\x7d\x7d\x7d\x7d\x7d,~components~:\x7b~securitySchemes~:\x7b~apiKeyHeader~:\x7b~type~:~apiKey~,~name~:~app_key~,~in~:~header~\x7d,~apiKeyQuery~:\x7b~type~:~apiKey~,~name~:~app_key~,~in~:~query~\x7d\x7d\x7d,~security~:[\x7b~apiKeyHeader~:[]\x7d,\x7b~apiKeyQuery~:[]\x7d]\x7d")]

/-- The bundled description of that name, read. -/
def description? (name : String) : Option Json :=
  (descriptionTexts.find? (·.1 == name)).bind fun p => Json.parse? (p.2.replace "~" "\"")

end TransitKit.Catalogue
