import NxContainer.Json.Token

/-! Trees from tokens. What surrounds the value in progress is held in a list of frames, so the
reading is one pass over the tokens, however deep the tree is. -/
namespace NxContainer.Json

inductive Reading where
  /-- All of it: strings are texts, numbers are in range, at most 127 brackets are open at once,
  and of members of one name the last one stays. -/
  | whole
  /-- Its form. Members stay as they are, and a string or a number is judged where it is used. -/
  | skimmed
deriving DecidableEq

inductive Frame where
  | list (done : List Json)
  | object (done : List (Pieces × Json))
  | member (done : List (Pieces × Json)) (name : Pieces)

inductive Place where
  | value
  | firstItem
  | firstName
  | name
  | colon
  | behind (j : Json)

structure State where
  frames : List Frame
  place : Place

namespace Reading

def sameName (a b : Pieces) : Bool := Piece.join a = Piece.join b

def members (r : Reading) (done : List (Pieces × Json)) : List (Pieces × Json) :=
  match r with
  | .skimmed => done.reverse
  | .whole => done.foldl (fun kept m => if kept.any (sameName ·.1 m.1) then kept else m :: kept) []

def begin (frames : List Frame) : Token → Option State
  | .mark '[' => some ⟨.list [] :: frames, .firstItem⟩
  | .mark '\x7b' => some ⟨.object [] :: frames, .firstName⟩
  | .mark _ => none
  | .null => some ⟨frames, .behind .null⟩
  | .bool b => some ⟨frames, .behind (.bool b)⟩
  | .number n => some ⟨frames, .behind (.number n)⟩
  | .string s => some ⟨frames, .behind (.string s)⟩

def beginMember (frames : List Frame) (t : Token) : Option State :=
  match frames, t with
  | .object done :: outer, .string s => some ⟨.member done s :: outer, .colon⟩
  | _, _ => none

/-- A token behind the value `j`, which goes on in the frame around it or closes that frame. -/
def resume (r : Reading) (frames : List Frame) (j : Json) (t : Token) : Option State :=
  match frames, t with
  | .list done :: outer, .mark ',' => some ⟨.list (j :: done) :: outer, .value⟩
  | .list done :: outer, .mark ']' => some ⟨outer, .behind (.list (j :: done).reverse)⟩
  | .member done name :: outer, .mark ',' => some ⟨.object ((name, j) :: done) :: outer, .name⟩
  | .member done name :: outer, .mark '\x7d' =>
    some ⟨outer, .behind (.object (r.members ((name, j) :: done)))⟩
  | _, _ => none

def step (r : Reading) (s : State) (t : Token) : Option State :=
  match s.place with
  | .value => begin s.frames t
  | .firstItem =>
    match s.frames, t with
    | .list _ :: outer, .mark ']' => some ⟨outer, .behind (.list [])⟩
    | frames, t => begin frames t
  | .firstName =>
    match s.frames, t with
    | .object _ :: outer, .mark '\x7d' => some ⟨outer, .behind (.object [])⟩
    | frames, t => beginMember frames t
  | .name => beginMember s.frames t
  | .colon => if t = .mark ':' then some ⟨s.frames, .value⟩ else none
  | .behind j => r.resume s.frames j t

def isSound : Token → Bool
  | .number n => n.isFinite
  | .string s => (Piece.join s).isSome
  | _ => true

def openAfter (n : Nat) : Token → Nat
  | .mark '[' | .mark '\x7b' => n + 1
  | .mark ']' | .mark '\x7d' => n - 1
  | _ => n

def staysWithin (limit n : Nat) : List Token → Bool
  | [] => true
  | t :: rest => openAfter n t ≤ limit && staysWithin limit (openAfter n t) rest

def accepts (r : Reading) (tokens : List Token) : Bool :=
  match r with
  | .skimmed => true
  | .whole => tokens.all isSound && staysWithin 127 0 tokens

def ofTokens? (r : Reading) (tokens : List Token) : Option Json :=
  match tokens.foldlM r.step ⟨[], .value⟩ with
  | some ⟨[], .behind j⟩ => some j
  | _ => none

def parse (r : Reading) (text : String) : Option Json := do
  let tokens ← Token.scan text
  guard (r.accepts tokens)
  r.ofTokens? tokens

end Reading

end NxContainer.Json
