import SymbolGraph.Json.Token

/-! # Reading JSON text

Tokens drive a machine with the open arrays and objects on a stack. -/
namespace SymbolGraph

/-- An open array or object with what it has so far, last first; `member` is an object that waits for the
value of a key. -/
inductive JsonFrame where
  | array (items : List JsonValue)
  | object (fields : List (Option String × JsonValue))
  | member (fields : List (Option String × JsonValue)) (key : Option String)

inductive JsonPhase where
  | value
  | itemOrEnd
  | keyOrEnd
  | key
  | colon (key : Option String)
  | commaOrEnd
  | done (v : JsonValue)

structure JsonState where
  stack : List JsonFrame
  phase : JsonPhase

namespace JsonState

def start : JsonState := ⟨[], .value⟩

/-- A value is complete: it goes to the frame on top. -/
def put (v : JsonValue) : List JsonFrame → Option JsonState
  | [] => some ⟨[], .done v⟩
  | .array items :: s => some ⟨.array (v :: items) :: s, .commaOrEnd⟩
  | .member fields key :: s => some ⟨.object ((key, v) :: fields) :: s, .commaOrEnd⟩
  | .object _ :: _ => none

def beginValue (s : List JsonFrame) : JsonToken → Option JsonState
  | .openObject => some ⟨.object [] :: s, .keyOrEnd⟩
  | .openArray => some ⟨.array [] :: s, .itemOrEnd⟩
  | .null => put .null s
  | .bool b => put (.bool b) s
  | .number n => put (.number n) s
  | .string t => put (.string t) s
  | _ => none

def beginKey (s : List JsonFrame) : JsonToken → Option JsonState
  | .string t => some ⟨s, .colon t⟩
  | _ => none

def close : List JsonFrame → JsonToken → Option JsonState
  | .array items :: s, .closeArray => put (.array items.reverse) s
  | .object fields :: s, .closeObject => put (.object fields.reverse) s
  | _, _ => none

def step : JsonState → JsonToken → Option JsonState
  | ⟨s, .value⟩, t => beginValue s t
  | ⟨s, .itemOrEnd⟩, t => if t = .closeArray then close s t else beginValue s t
  | ⟨s, .key⟩, t => beginKey s t
  | ⟨s, .keyOrEnd⟩, t => if t = .closeObject then close s t else beginKey s t
  | ⟨.object fields :: s, .colon key⟩, .colon => some ⟨.member fields key :: s, .value⟩
  | ⟨.array items :: s, .commaOrEnd⟩, .comma => some ⟨.array items :: s, .value⟩
  | ⟨.object fields :: s, .commaOrEnd⟩, .comma => some ⟨.object fields :: s, .key⟩
  | ⟨s, .commaOrEnd⟩, t => close s t
  | _, _ => none

def result? : JsonState → Option JsonValue
  | ⟨_, .done v⟩ => some v
  | _ => none

end JsonState

def JsonValue.ofText? (text : String) : Option JsonValue :=
  (JsonToken.scan? text.toList).bind fun ts => (ts.foldlM JsonState.step .start).bind JsonState.result?

end SymbolGraph
