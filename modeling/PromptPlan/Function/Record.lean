import PromptPlan.Function
import PromptPlan.Json.Decode

/-!
# Profiles as records

A profile can be sent to another program and read back, as a JSON object with all of its
fields. A parameter without a default has null there, or nothing at all.
-/

namespace PromptPlan

namespace Parameter

def fields : Json.Fields where
  name := "ParameterView"
  fields := ["name", "description", "default_value", "required"]
  required := ["name", "description", "required"]
  listed := ["name", "description", "default_value", "required"]

def visit (depth : Nat) (p : Parameter) (name : String) (j : Json) : Except String Parameter :=
  if name = "name" then return { p with name := ← Json.asString depth j }
  else if name = "description" then return { p with description := ← Json.asString depth j }
  else if name = "default_value" then
    return { p with default := ← Json.asOptional Json.asString depth j }
  else return { p with required := ← Json.asBool depth j }

def decode (origin : Json.Origin) : Json.Decoder Parameter :=
  Json.asRecord origin fields ⟨"", "", none, false⟩ visit

def toJson (p : Parameter) : Json :=
  .object
    [("name", .string p.name), ("description", .string p.description),
      ("default_value", p.default.elim .null .string), ("required", .bool p.required)]

end Parameter

namespace Profile

def fields : Json.Fields where
  name := "FunctionView"
  fields := ["name", "skill_name", "description", "is_semantic", "parameters"]
  required := ["name", "skill_name", "description", "is_semantic", "parameters"]
  listed := ["name", "skill_name", "description", "is_semantic", "parameters"]

def visit (origin : Json.Origin) (depth : Nat) (p : Profile) (name : String) (j : Json) :
    Except String Profile :=
  if name = "name" then return { p with name := ← Json.asString depth j }
  else if name = "skill_name" then return { p with skill := ← Json.asString depth j }
  else if name = "description" then return { p with description := ← Json.asString depth j }
  else if name = "is_semantic" then return { p with semantic := ← Json.asBool depth j }
  else return { p with parameters := ← Json.asList (Parameter.decode origin) depth j }

def decode (origin : Json.Origin) : Json.Decoder Profile :=
  Json.asRecord origin fields ⟨"", "", "", false, []⟩ (visit origin)

def toJson (p : Profile) : Json :=
  .object
    [("name", .string p.name), ("skill_name", .string p.skill),
      ("description", .string p.description), ("is_semantic", .bool p.semantic),
      ("parameters", .array (p.parameters.map Parameter.toJson))]

end Profile

end PromptPlan
