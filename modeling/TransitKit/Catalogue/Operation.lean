/-!
# Operations of the service

A client of the service groups operations. Each operation takes named parameters,
fills some of them into an address template (in the order the template numbers them)
and sends some as query arguments; its answer is read into a model.

A model is a root model, which wraps one value (the array models wrap a list), or an
object model with named fields.
-/

namespace TransitKit.Catalogue

/-- The two kinds of model. -/
inductive ModelKind where
  | root
  | object
deriving Repr, BEq, DecidableEq, Inhabited

/-- An operation of a client. -/
structure Operation where
  /-- The method name. -/
  name : String
  /-- The parameters in order, each with whether it must be given. -/
  parameters : List (String × Bool)
  /-- The parameters filled into the template, in its numbering; `none` when the
  template takes no values. -/
  pathArgs : Option (List String)
  /-- The query arguments as query name and parameter; `none` when none are sent. -/
  queryArgs : Option (List (String × String))
  /-- The address template. -/
  uri : String
  /-- The name of the model of the answer. -/
  model : String
deriving Repr, Inhabited

/-- A client: its name, the base address it calls, and its operations. -/
structure ClientSpec where
  name : String
  baseUrl : String
  operations : List Operation
deriving Repr, Inhabited

end TransitKit.Catalogue
