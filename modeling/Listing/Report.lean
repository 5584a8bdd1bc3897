import Listing.Json.Value

namespace Listing

structure ReportEntry where
  key : String
  messages : List String
deriving DecidableEq, Repr

structure Report where
  entries : List ReportEntry := []
deriving DecidableEq, Repr

namespace Report

def empty : Report := {}

def push (r : Report) (key message : String) : Report := ⟨r.entries ++ [⟨key, [message]⟩]⟩

def append (r s : Report) : Report := ⟨r.entries ++ s.entries⟩

def isEmpty (r : Report) : Bool := r.entries.isEmpty

def size (r : Report) : Nat := r.entries.length

def messagesFor (r : Report) (key : String) : List String :=
  (r.entries.filter fun e => e.key == key).flatMap (·.messages)

def firstSeen : List String → List String
  | [] => []
  | k :: ks => k :: (firstSeen ks).filter (· ≠ k)

def keys (r : Report) : List String := firstSeen (r.entries.map (·.key))

def text (r : Report) : String :=
  ", ".intercalate (r.entries.map fun e => e.key ++ ": " ++ "".intercalate e.messages)

def toJson (r : Report) : Json :=
  .object (r.keys.map fun k => (k, .array ((r.messagesFor k).map .string)))

end Report
end Listing
