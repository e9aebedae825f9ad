import SearchQuery.ResultPage
import SearchQuery.Target

namespace SearchQuery

-- What runs rendered bodies against a search engine. A transport answers and may change by being
-- asked, so every question answers the transport that comes after it.
class Transport (τ : Type) where
  search : τ → Target → Json → Except Error ResultPage × τ
  count : τ → Target → Json → Except Error Nat × τ

inductive RequestKind where
  | search
  | count
  deriving DecidableEq

structure RecordedRequest where
  kind : RequestKind
  target : Target
  body : Json

structure RecordingTransport where
  page : ResultPage
  matching : Nat
  failure : Option String
  requests : List RecordedRequest

namespace RecordingTransport

def empty : RecordingTransport := ⟨.empty, 0, none, []⟩

def record (transport : RecordingTransport) (kind : RequestKind) (target : Target)
    (body : Json) : RecordingTransport :=
  { transport with requests := transport.requests ++ [⟨kind, target, body⟩] }

def answer {α : Type} (transport : RecordingTransport) (value : α) : Except Error α :=
  match transport.failure with
  | some reason => .error (.transport reason)
  | none => .ok value

end RecordingTransport

instance : Transport RecordingTransport where
  search transport target body :=
    (transport.answer transport.page, transport.record .search target body)
  count transport target body :=
    (transport.answer transport.matching, transport.record .count target body)

end SearchQuery
