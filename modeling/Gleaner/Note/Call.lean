import Gleaner.Note.Client

/-!
# Requests by name

A request can be called by its name, with values in order and values by name.  A call fits if every
value finds a parameter of its own and every parameter without a default finds a value.

* `Parameter`, `Operation` — what a request takes, and what it does.
* `Operation.bind` — the values of the parameters.
* `operations` — the requests of the service.
* `call` — calls a request.
-/

namespace Gleaner.Note

variable [Platform]

/-- A parameter: its name, and its value when none is given. -/
structure Parameter where
  name : Text
  default : Option Json

/-- A parameter that must be given. -/
def required (name : Text) : Parameter :=
  ⟨name, none⟩

/-- A parameter with a default. -/
def optional (name : Text) (default : Json) : Parameter :=
  ⟨name, some default⟩

/-- A request by name: its parameters, and what it does with their values. -/
structure Operation where
  name : Text
  parameters : List Parameter
  perform : (Text → Json) → Program Json

/-- Names in quotes as they are told one after another. -/
def told (names : List Text) : Text :=
  match names.map fun n => Text.cat [['\''], n, ['\'']] with
  | [] => []
  | [a] => a
  | [a, b] => Text.cat [a, " and ", b]
  | several =>
      Text.cat [Text.join [',', ' '] several.dropLast, ", and ", several.getLast?.getD []]

namespace Operation

/-- The fault of a call that does not fit. -/
def unfit (o : Operation) (notice : List Text) : Fault :=
  .badCall (Text.cat [o.name, "() ", notice.flatten])

/-- How many values a request takes. -/
def capacity (o : Operation) : Text :=
  let most := o.parameters.length
  let least := o.parameters.countP fun p => p.default.isNone
  if least < most then
    Text.cat ["from ", Text.ofNat least, " to ", Text.ofNat most, " positional arguments"]
  else
    Text.cat [Text.ofNat most, if most = 1 then " positional argument" else " positional arguments"]

/-- Refuses more values than there are parameters. -/
def refuseSurplus (o : Operation) (count : Nat) : Except Fault Unit :=
  if count ≤ o.parameters.length then .ok ()
  else
    .error (o.unfit ["takes ", o.capacity, " but ", Text.ofNat count,
      if count = 1 then " was given" else " were given"])

/-- Adds values by name to those in order. -/
def bindNamed (o : Operation) (bound : List (Text × Json)) :
    List (Text × Json) → Except Fault (List (Text × Json))
  | [] => .ok bound
  | (name, value) :: rest =>
      if !(o.parameters.any fun p => p.name = name) then
        .error (o.unfit ["got an unexpected keyword argument '", name, "'"])
      else if (bound.lookup name).isSome then
        .error (o.unfit ["got multiple values for argument '", name, "'"])
      else bindNamed o (bound ++ [(name, value)]) rest

/-- Refuses a call that leaves a parameter without a value. -/
def refuseMissing (o : Operation) (bound : List (Text × Json)) : Except Fault Unit :=
  let missing := (o.parameters.filter fun p => p.default.isNone && (bound.lookup p.name).isNone).map
    Parameter.name
  if missing.isEmpty then .ok ()
  else
    .error (o.unfit ["missing ", Text.ofNat missing.length,
      if missing.length = 1 then " required positional argument: "
      else " required positional arguments: ", told missing])

/-- The values that a call gives to the parameters of a request. -/
def bind (o : Operation) (given : List Json) (named : List (Text × Json)) :
    Except Fault (List (Text × Json)) := do
  let inOrder := (o.parameters.map Parameter.name).zip given
  let bound ← o.bindNamed inOrder named
  o.refuseSurplus given.length
  o.refuseMissing bound
  return bound

/-- The value of a parameter: the one that is given, or its default. -/
def value (o : Operation) (bound : List (Text × Json)) (name : Text) : Json :=
  let default := (o.parameters.find? fun p => p.name = name).bind Parameter.default
  ((bound.lookup name).or default).getD .null

end Operation

/-- The requests of the service. -/
def operations : List Operation := [
  ⟨"check_status", [], fun _ => status⟩,
  ⟨"search_notes", [required "keyword", optional "sort_by" "综合", optional "note_type" "不限",
      optional "publish_time" "不限"],
    fun v => search ⟨v "keyword", v "sort_by", v "note_type", v "publish_time"⟩⟩,
  ⟨"get_note_detail", [required "feed_id", required "xsec_token",
      optional "load_comments" (.bool false)],
    fun v => detail (v "feed_id") (v "xsec_token") (v "load_comments")⟩,
  ⟨"get_feeds", [], fun _ => feeds⟩,
  ⟨"publish_note", [required "title", required "content", required "images",
      optional "tags" .null],
    fun v => publish (v "title") (v "content") (v "images") (v "tags")⟩]

/-- Calls a request by its name; there is nothing to call under another name. -/
def call (name : Text) (given : List Json) (named : List (Text × Json)) : Program Json := do
  match operations.find? fun o => o.name = name with
  | none => return .null
  | some o => do
      let bound ← Program.lift (o.bind given named)
      o.perform (o.value bound)

end Gleaner.Note
