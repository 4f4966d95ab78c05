import RepoSurvey.Schema.Codec

/-!
# Records

A record is described once, part by part: the name of a field, its codec, where the record keeps it
and what stands for it when it is missing. From the parts follow both the reading and the writing of
the record. A field may have an exchanged name beside its own; both are read, the exchanged one first,
and issues are placed under the exchanged one. Unknown members are ignored.
-/

namespace RepoSurvey.Schema

/-- A part of records `ρ` that holds a value in `α`. -/
structure Part (ρ α : Type) where
  read : List (String × Json) -> Checked α
  write : Form -> ρ -> List (String × Json)

namespace Part

variable {ρ α β : Type}

/-- A part without fields. -/
def constant (value : α) : Part ρ α := ⟨fun _ => .valid value, fun _ _ => []⟩

/-- Two parts, the first giving a function of the second. -/
def apply (left : Part ρ (α -> β)) (right : Unit -> Part ρ α) : Part ρ β where
  read members := ((left.read members).both ((right ()).read members)).map fun (change, value) =>
    change value
  write form record := left.write form record ++ (right ()).write form record

instance : Applicative (Part ρ) where
  pure := constant
  seq := apply

/-- A field with an own and an exchanged name. A missing field has its fallback, if there is one. -/
def named (own exchanged : String) (codec : Codec α) (held : ρ -> α) (fallback : Option α) :
    Part ρ α where
  read members :=
    match (Json.lookup exchanged members).or (Json.lookup own members) with
    | some value => (codec.read value).under exchanged
    | none =>
      match fallback with
      | some value => .valid value
      | none => (Checked.misfit .missing).under exchanged
  write form record :=
    let value := codec.write form (held record)
    if form.omitsAbsent && value = .null then []
    else [(if form.exchangedNames then exchanged else own, value)]

/-- A field that is exchanged under its own name. -/
def field (name : String) (codec : Codec α) (held : ρ -> α) (fallback : Option α) : Part ρ α :=
  named name name codec held fallback

/-- Characters without the underscores among them, and with a capital after each underscore. -/
def capitals (afterUnderscore : Bool) : List Char -> List Char
  | [] => []
  | c :: rest =>
    if c = '_' then capitals true rest
    else (if afterUnderscore then c.toUpper else c) :: capitals false rest

/-- A name in words joined by underscores as one with inner capitals. -/
def capitalised (name : String) : String := String.ofList (capitals false name.toList)

example : capitalised "tech_stack" = "techStack" := by decide

/-- A field that is exchanged under its name with inner capitals. -/
def exchanged (name : String) (codec : Codec α) (held : ρ -> α) (fallback : Option α) : Part ρ α :=
  named name (capitalised name) codec held fallback

end Part

/-- A record made of its parts. -/
def Codec.record {ρ : Type} (name : String) (parts : Part ρ ρ) : Codec ρ where
  read
    | .obj members => parts.read members
    | _ => .misfit (.notRecord name)
  write form record := .obj (parts.write form record)

end RepoSurvey.Schema
