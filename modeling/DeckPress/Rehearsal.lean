import DeckPress.Pipeline

/-!
# Rehearsals

Services that answer from prepared scripts and keep what they were asked. Pictures are had from a
table, by their address, and a prepared resolver answers for every slide in its own way.
-/
namespace DeckPress

structure Rehearsal where
  model : Script Conversation.Request Conversation.Reply
  search : Script Image.Search.Call (Reply String)
  fetched : List String := []
  /-- What a prepared resolver was asked. -/
  consulted : List Image.Request := []

namespace Rehearsal

def exhausted : Reply String := .error (.transport "exhausted")

def askModel (r : Conversation.Request) : StateM Rehearsal Conversation.Reply := fun s =>
  let (reply, model) := s.model.ask (.error .unreachable) r
  (reply, { s with model := model })

def askSearch (c : Image.Search.Call) : StateM Rehearsal (Reply String) := fun s =>
  let (reply, search) := s.search.ask exhausted c
  (reply, { s with search := search })

def fetch (pictures : String → Reply Picture.Bytes) (url : String) :
    StateM Rehearsal (Reply Picture.Bytes) := fun s =>
  (pictures url, { s with fetched := s.fetched ++ [url] })

def services (pictures : String → Reply Picture.Bytes) : Services Rehearsal :=
  ⟨askModel, askSearch, fetch pictures⟩

def resolver (answer : Image.Request → Image.Answer) : Image.Resolver Rehearsal := fun r s =>
  (.ok (answer r), { s with consulted := s.consulted ++ [r] })

def restarted (s : Rehearsal) : Rehearsal := ⟨s.model.restarted, s.search.restarted, [], []⟩

end Rehearsal

end DeckPress
