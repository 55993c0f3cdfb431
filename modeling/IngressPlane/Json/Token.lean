import IngressPlane.Json.Written

/-!
The tokens of a JSON text, and the machine that builds a document from them. The machine keeps the
containers that are still open, innermost first.
-/
namespace IngressPlane.Json

inductive Token
  | openArray
  | closeArray
  | openObject
  | closeObject
  | comma
  | colon
  | text (value : Option String)
  | scalar (value : Option Json)

inductive Frame
  | array (done : List Written)
  | object (done : List (Option String × Written))
  | member (done : List (Option String × Written)) (name : Option String)

inductive Want
  | value
  | valueOrClose
  | nameOrClose
  | name
  | colon
  | commaOrClose
  | nothing (document : Written)

structure Building where
  frames : List Frame
  want : Want

def Building.start : Building := ⟨[], .value⟩

/-- Hands a finished value to the innermost open container. -/
def Building.finish (value : Written) : List Frame → Option Building
  | [] => some ⟨[], .nothing value⟩
  | .array done :: rest => some ⟨.array (value :: done) :: rest, .commaOrClose⟩
  | .member done name :: rest => some ⟨.object ((name, value) :: done) :: rest, .commaOrClose⟩
  | .object _ :: _ => none

def Building.beginValue (frames : List Frame) : Token → Option Building
  | .text value => finish (.scalar (value.map .string)) frames
  | .scalar value => finish (.scalar value) frames
  | .openArray => some ⟨.array [] :: frames, .valueOrClose⟩
  | .openObject => some ⟨.object [] :: frames, .nameOrClose⟩
  | _ => none

def Building.step (b : Building) (token : Token) : Option Building :=
  match b.want, token, b.frames with
  | .value, token, frames => beginValue frames token
  | .valueOrClose, .closeArray, .array done :: rest => finish (.array done.reverse) rest
  | .valueOrClose, token, frames => beginValue frames token
  | .nameOrClose, .closeObject, .object done :: rest => finish (.object done.reverse) rest
  | .nameOrClose, .text name, .object done :: rest => some ⟨.member done name :: rest, .colon⟩
  | .name, .text name, .object done :: rest => some ⟨.member done name :: rest, .colon⟩
  | .colon, .colon, frames => some ⟨frames, .value⟩
  | .commaOrClose, .comma, .array done :: rest => some ⟨.array done :: rest, .value⟩
  | .commaOrClose, .comma, .object done :: rest => some ⟨.object done :: rest, .name⟩
  | .commaOrClose, .closeArray, .array done :: rest => finish (.array done.reverse) rest
  | .commaOrClose, .closeObject, .object done :: rest => finish (.object done.reverse) rest
  | _, _, _ => none

def Building.document? (b : Building) : Option Written :=
  match b.want with
  | .nothing document => some document
  | _ => none

end IngressPlane.Json
