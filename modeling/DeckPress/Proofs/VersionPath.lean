import DeckPress.Proofs.Download
import Mathlib.Data.List.Induction

/-!
# The kept versions and the path of all versions

A page keeps few versions of its deck. Beside it stands the path of all versions since the deck was
asked for, which is never shortened from its beginning: an edit cuts it after the shown version, and
a step back only moves along it. On every run the kept versions are the last ones of the path, and
the page shows the version at which the path stands.
-/
namespace DeckPress.Page

open Attempt

variable {σ : Type}

/-- All versions of a deck, oldest first, and the place of the shown one. -/
structure Path where
  decks : List (Deck Float) := []
  shown : Option Nat := none
deriving Repr, DecidableEq

/-- What an action comes to for the versions of a deck. -/
inductive Event
  | kept
  | generated (d : Deck Float)
  | edited (d : Deck Float)
  /-- The version with so many newer ones is to be shown. -/
  | moved (newer : Nat)
  | cleared
deriving Repr, DecidableEq

namespace Path

def current (p : Path) : Option (Deck Float) := p.shown.bind fun i => p.decks[i]?

def past (p : Path) : List (Deck Float) :=
  match p.shown with
  | some i => p.decks.take (i + 1)
  | none => []

def after (p : Path) : Event → Path
  | .kept => p
  | .generated d => ⟨[d], some 0⟩
  | .edited d => ⟨p.past ++ [d], some p.past.length⟩
  | .moved newer => { p with shown := some (p.decks.length - 1 - newer) }
  | .cleared => {}

def along (es : List Event) : Path := es.foldl after {}

theorem along_concat (es : List Event) (e : Event) : along (es ++ [e]) = (along es).after e := by
  rw [along, List.foldl_append]
  rfl

end Path

section Events

variable (services : Services σ) (s : Settings)

/-- What a request comes to: nothing unless something was said, there is a key to ask with, and
nothing fails on the way to a presentation. -/
def requestEvent (said : String) (made : Attempt Failure σ Product) (of : Deck Float → Event)
    (t : σ) : Event :=
  if Conversation.isBlank said || s.modelKey.isEmpty then .kept
  else
    match (made.outcome t).1 with
    | .ok p => of p.deck
    | .error _ => .kept

/-- A version that is switched to is shown, whether or not it can be presented. -/
def switchEvent (x : Session) (n : Int) : Event :=
  match x.version? (some (.version n)) with
  | some (_, i) => .moved (x.history.length - 1 - i)
  | none => .kept

def Session.event (x : Session) (t : σ) : Action → Event
  | .controls .. => .kept
  | .generate prompt => requestEvent s prompt (newProduct services s x prompt) .generated t
  | .edit instruction =>
    match x.current with
    | some d => requestEvent s instruction (editedProduct services s x d instruction) .edited t
    | none => .kept
  | .version n =>
    match x.current with
    | some _ => switchEvent x n
    | none => .kept
  | .clear => .cleared

def State.event (p : State) (v : Action × σ) : Event :=
  if v.1.button?.all p.offers then p.session.event services (p.controls.apply s) v.2 v.1
  else .kept

def State.events : State → List (Action × σ) → List Event
  | _, [] => []
  | p, v :: vs => p.event services s v :: State.events (p.after services s v.1 v.2) vs

/-- The path of all versions beside the page that some visits lead to. -/
def pathTo (t₀ : σ) (visits : List (Action × σ)) : Path :=
  Path.along ((State.first services s t₀).events services s visits)

end Events

variable {services : Services σ} {s : Settings}

theorem events_concat (p : State) (vs : List (Action × σ)) (v : Action × σ) :
    p.events services s (vs ++ [v]) =
      p.events services s vs ++ [(p.follow services s vs).event services s v] := by
  induction vs generalizing p with
  | nil => rfl
  | cons w vs ih =>
    rw [List.cons_append, State.events, ih]
    rfl

theorem pathTo_concat (t₀ : σ) (vs : List (Action × σ)) (v : Action × σ) :
    pathTo services s t₀ (vs ++ [v]) =
      (pathTo services s t₀ vs).after ((State.reached services s t₀ vs).event services s v) := by
  rw [pathTo, events_concat, Path.along_concat]
  rfl

/-- The session keeps the last versions of the path and shows the one at which the path stands. -/
structure Session.Follows (x : Session) (p : Path) : Prop where
  length_le : x.history.length ≤ 5
  shown_eq_none_iff : x.shown = none ↔ x.history = []
  lt_length : ∀ i, x.shown = some i → i < x.history.length
  isSuffix : x.history <:+ p.decks
  /-- The path stands as many places further as it has versions that are not kept. -/
  shown_path : p.shown = x.shown.map (p.decks.length - x.history.length + ·)

theorem follows_empty : Session.Follows {} {} :=
  ⟨Nat.zero_le _, iff_of_true rfl rfl, (fun _ h => nomatch h), List.suffix_refl _, rfl⟩

/-- Only the versions and the shown one matter. -/
theorem Session.Follows.congr {x y : Session} {p : Path} (h : x.Follows p)
    (hh : y.history = x.history) (hs : y.shown = x.shown) : y.Follows p := by
  refine ⟨hh ▸ h.length_le, ?_, ?_, hh ▸ h.isSuffix, ?_⟩
  · rw [hh, hs]
    exact h.shown_eq_none_iff
  · rw [hh, hs]
    exact h.lt_length
  · rw [hh, hs]
    exact h.shown_path

theorem Session.Follows.exists_older {x : Session} {p : Path} (h : x.Follows p) :
    ∃ older, older ++ x.history = p.decks ∧ p.shown = x.shown.map (older.length + ·) := by
  obtain ⟨older, hdecks⟩ := h.isSuffix
  refine ⟨older, hdecks, ?_⟩
  rw [h.shown_path, ← hdecks, List.length_append, Nat.add_sub_cancel]

theorem Session.Follows.current_eq {x : Session} {p : Path} (h : x.Follows p) :
    x.current = p.current := by
  obtain ⟨older, hdecks, hshown⟩ := h.exists_older
  rw [Session.current, Path.current, hshown, Option.bind_map]
  refine Option.bind_congr fun i _ => ?_
  rw [Function.comp_apply, ← hdecks, List.getElem?_append_right (Nat.le_add_right _ i),
    Nat.add_sub_cancel_left]

/-- The versions up to the shown one are the last ones of those on the path. -/
theorem Session.Follows.past_isSuffix {x : Session} {p : Path} (h : x.Follows p) :
    x.past <:+ p.past := by
  obtain ⟨older, hdecks, hshown⟩ := h.exists_older
  unfold Session.past Path.past
  rw [hshown]
  cases hs : x.shown with
  | none => exact List.nil_suffix
  | some i =>
    refine ⟨older, ?_⟩
    simp only [Option.map_some, Option.getD_some]
    rw [← hdecks, Nat.add_assoc, List.take_length_add_append]

/-- One version too many costs the oldest one, and only that. -/
theorem kept_eq_ite {ds : List (Deck Float)} (h : ds.length ≤ 6) :
    Session.kept ds = if ds.length = 6 then ds.tail else ds := by
  have hlimit : Session.limit < ds.length ↔ ds.length = 6 := by
    rw [Session.limit]
    omega
  rw [Session.kept, ite_cond_congr (propext hlimit)]

theorem Session.Follows.length_past_le {x : Session} {p : Path} (h : x.Follows p) :
    x.past.length ≤ 5 := by
  rw [Session.past, List.length_take]
  exact Nat.le_trans (Nat.min_le_right _ _) h.length_le

theorem follows_push {x : Session} {ds : List (Deck Float)} (h : x.past <:+ ds)
    (hfew : x.past.length ≤ 5) (d : Deck Float) :
    (x.push d).Follows ⟨ds ++ [d], some ds.length⟩ := by
  obtain ⟨newer, hnewer, hlt, hhistory⟩ : ∃ newer, newer <:+ x.past ∧ newer.length < 5 ∧
      (x.push d).history = newer ++ [d] := by
    refine ⟨_, ?_, ?_, kept_concat x.past d⟩
    · split
      · exact List.tail_suffix _
      · exact List.suffix_refl _
    · split
      · rw [List.length_tail]
        omega
      · omega
  have hsuffix : newer <:+ ds := hnewer.trans h
  have hshown : (x.push d).shown = some newer.length := by
    change some ((x.push d).history.length - 1) = _
    rw [hhistory, List.length_append, List.length_singleton, Nat.add_sub_cancel]
  have hle := hsuffix.length_le
  constructor
  · rw [hhistory, List.length_append, List.length_singleton]
    omega
  · rw [hhistory, hshown]
    simp
  · intro i hi
    rw [hshown, Option.some.injEq] at hi
    rw [hhistory, List.length_append, List.length_singleton]
    omega
  · rw [hhistory]
    exact (List.suffix_append_self_iff).2 hsuffix
  · rw [hshown, hhistory, Option.map_some]
    simp only [List.length_append, List.length_singleton, Option.some.injEq]
    omega

theorem Session.Follows.moved {x y : Session} {p : Path} (h : x.Follows p) {i : Nat}
    (hi : i < x.history.length) (hh : y.history = x.history) (hs : y.shown = some i) :
    y.Follows (p.after (.moved (x.history.length - 1 - i))) := by
  have hle := h.isSuffix.length_le
  constructor
  · rw [hh]
    exact h.length_le
  · rw [hh, hs]
    simpa using List.ne_nil_of_length_pos (Nat.zero_lt_of_lt hi)
  · intro j hj
    rw [hs, Option.some.injEq] at hj
    rw [hh, ← hj]
    exact hi
  · rw [hh]
    exact h.isSuffix
  · rw [hs, hh, Option.map_some]
    simp only [Path.after, Option.some.injEq]
    omega

theorem Session.Follows.requested {x : Session} {p : Path} (h : x.Follows p) {said : String}
    {made : Attempt Failure σ Product} {done : Product → Session} {of : Deck Float → Event} {t : σ}
    (hdone : ∀ q : Product, (done q).Follows (p.after (of q.deck))) :
    (x.requested s said made done t).Follows (p.after (requestEvent s said made of t)) := by
  unfold Session.requested requestEvent
  split
  · exact h
  · rcases made.outcome t with ⟨⟨f⟩ | ⟨q⟩, t'⟩
    · exact h
    · exact hdone q

theorem Session.Follows.generated {x : Session} {p : Path} (q : Product) (said : String) :
    (x.generated q said).Follows (p.after (.generated q.deck)) :=
  (follows_push (x := { x with history := [], shown := none }) (List.suffix_refl [])
    (Nat.zero_le 5) q.deck).congr rfl rfl

theorem Session.Follows.edited {x : Session} {p : Path} (h : x.Follows p) (q : Product)
    (said : String) : (x.edited q said).Follows (p.after (.edited q.deck)) :=
  (follows_push h.past_isSuffix h.length_past_le q.deck).congr rfl rfl

theorem Session.Follows.switched {x : Session} {p : Path} (h : x.Follows p) (n : Int) (t : σ) :
    (x.afterSwitch services s (some (.version n)) t).Follows (p.after (switchEvent x n)) := by
  unfold Session.afterSwitch switchEvent
  rcases hv : x.version? (some (.version n)) with _ | ⟨d, i⟩
  · exact h
  · have hi : i < x.history.length := (List.getElem?_eq_some_iff.1 (version?_eq_some hv)).1
    dsimp only
    -- the version is shown whether it can be presented or not
    unfold Session.switched
    split <;> exact h.moved hi rfl rfl

/-- An action changes the session as its event changes the path. -/
theorem Session.Follows.next {x : Session} {p : Path} (h : x.Follows p) (t : σ) (a : Action) :
    (x.next services s t a).Follows (p.after (x.event services s t a)) := by
  unfold Session.next Session.event
  cases a with
  | controls schema canvas strict => exact h
  | clear => exact follows_empty
  | generate prompt => exact h.requested fun q => .generated q prompt
  | edit instruction =>
    cases x.current with
    | some d => exact h.requested fun q => h.edited q instruction
    | none => exact h
  | version n =>
    cases x.current with
    | some d => exact h.switched n t
    | none => exact h

theorem Session.Follows.after {q : State} {p : Path} (h : q.session.Follows p) (v : Action × σ) :
    (q.after services s v.1 v.2).session.Follows (p.after (q.event services s v)) := by
  rw [session_after, State.event]
  split
  · exact h.next v.2 v.1
  · exact h

theorem reached_follows (t₀ : σ) (visits : List (Action × σ)) :
    (State.reached services s t₀ visits).session.Follows (pathTo services s t₀ visits) := by
  -- from the last visit, which changes page and path alike
  induction visits using List.reverseRecOn with
  | nil =>
    change (State.first services s t₀).session.Follows {}
    rw [session_first]
    exact follows_empty
  | append_singleton visits v ih =>
    rw [State.reached, follow_concat, pathTo_concat]
    exact ih.after v

theorem requested_of_requestEvent (x : Session) (done : Product → Session) {said : String}
    {made : Attempt Failure σ Product} {of : Deck Float → Event} {t : σ}
    (h : requestEvent s said made of t ≠ .kept) :
    ∃ q : Product, requestEvent s said made of t = of q.deck ∧
      x.requested s said made done t = done q := by
  unfold requestEvent Session.requested at *
  split at h
  · exact absurd rfl h
  · next hsaid =>
    rw [if_neg hsaid, if_neg hsaid]
    rcases hmade : made.outcome t with ⟨⟨f⟩ | ⟨q⟩, t'⟩
    · exact absurd (by rw [hmade]) h
    · exact ⟨q, rfl, rfl⟩

theorem next_of_edited {x : Session} {t : σ} {a : Action} {d : Deck Float}
    (h : x.event services s t a = .edited d) :
    ∃ (q : Product) (said : String), q.deck = d ∧ x.current.isSome ∧
      x.next services s t a = x.edited q said := by
  unfold Session.event at h
  unfold Session.next
  cases a with
  | controls schema canvas strict => cases h
  | clear => cases h
  | generate prompt =>
    obtain ⟨q, hq, -⟩ := requested_of_requestEvent x (fun q => x.generated q prompt)
      (ne_of_eq_of_ne h (nofun))
    cases hq.symm.trans h
  | version n =>
    dsimp only at h
    split at h
    · unfold switchEvent at h
      split at h <;> cases h
    · cases h
  | edit instruction =>
    dsimp only at h ⊢
    split at h
    · next d₀ hd₀ =>
      obtain ⟨q, hq, hnext⟩ := requested_of_requestEvent x (fun q => x.edited q instruction)
        (ne_of_eq_of_ne h (nofun))
      rw [hd₀]
      exact ⟨q, instruction, Event.edited.inj (hq.symm.trans h), rfl, hnext⟩
    · cases h

/-- An edit that succeeds keeps all versions up to the shown one and the new one, but for the
oldest one if these are six. -/
theorem Session.Follows.edited_history {q : State} {p : Path} (hq : q.session.Follows p)
    {v : Action × σ} {d : Deck Float} (h : q.event services s v = .edited d) :
    ∃ i, q.session.shown = some i ∧
      (q.session.history.take (i + 1) ++ [d]).length ≤ 6 ∧
      (q.after services s v.1 v.2).session.history =
        if (q.session.history.take (i + 1) ++ [d]).length = 6
        then (q.session.history.take (i + 1) ++ [d]).tail
        else q.session.history.take (i + 1) ++ [d] := by
  unfold State.event at h
  split at h
  · next hoffers =>
    obtain ⟨r, said, rfl, hcurrent, hnext⟩ := next_of_edited h
    obtain ⟨i, hi⟩ : ∃ i, q.session.shown = some i := by
      rw [Session.current, Option.isSome_bind, Option.any_eq_true] at hcurrent
      obtain ⟨i, hi, -⟩ := hcurrent
      exact ⟨i, hi⟩
    have hpast : q.session.past = q.session.history.take (i + 1) := by rw [Session.past, hi]; rfl
    have hle : (q.session.history.take (i + 1) ++ [r.deck]).length ≤ 6 := by
      rw [List.length_append, ← hpast]
      exact Nat.succ_le_succ hq.length_past_le
    refine ⟨i, hi, hle, ?_⟩
    rw [session_after, if_pos hoffers, hnext, ← kept_eq_ite hle, ← hpast]
    rfl
  · cases h

/-- On every run of the page, the kept versions are at most five and the last ones of the path of
all versions, and the page shows the version at which the path stands. A version is dropped only by
an edit that would be the sixth one, and then it is the oldest one alone. -/
theorem history_is_end_of_path (services : Services σ) (s : Settings) (t₀ : σ)
    (visits : List (Action × σ)) :
    let q := State.reached services s t₀ visits
    let x := q.session
    let p := pathTo services s t₀ visits
    x.history.length ≤ 5 ∧
      (x.shown = none ↔ x.history = []) ∧
      (∀ i, x.shown = some i → i < x.history.length) ∧
      x.history <:+ p.decks ∧
      p.shown = x.shown.map (p.decks.length - x.history.length + ·) ∧
      x.current = p.current ∧
      ∀ (v : Action × σ) (d : Deck Float), q.event services s v = .edited d →
        ∃ i, x.shown = some i ∧
          (x.history.take (i + 1) ++ [d]).length ≤ 6 ∧
          (q.after services s v.1 v.2).session.history =
            if (x.history.take (i + 1) ++ [d]).length = 6
            then (x.history.take (i + 1) ++ [d]).tail
            else x.history.take (i + 1) ++ [d] := by
  intro q x p
  have h : x.Follows p := reached_follows t₀ visits
  exact ⟨h.length_le, h.shown_eq_none_iff, h.lt_length, h.isSuffix, h.shown_path, h.current_eq,
    fun _ _ => h.edited_history⟩

def fiveVersions : List (Action × Conversation.Reply) :=
  (.generate "lakes", twoSlides) :: List.replicate 4 (.edit "shorter", oneSlide)

theorem session_fiveVersions :
    let q := State.reached replying plainSettings oneSlide fiveVersions
    q.session.shown = some 4 ∧ q.session.history.length = 5 ∧
      (q.event replying plainSettings (.edit "shorter", oneSlide) matches .edited _) := by
  decide +kernel

theorem history_is_end_of_path_fiveVersions :
    let q := State.reached replying plainSettings oneSlide fiveVersions
    ∃ d i, q.event replying plainSettings (.edit "shorter", oneSlide) = .edited d ∧
      q.session.shown = some i ∧ (q.session.history.take (i + 1) ++ [d]).length = 6 ∧
      (q.after replying plainSettings (.edit "shorter") oneSlide).session.history =
        (q.session.history.take (i + 1) ++ [d]).tail := by
  obtain ⟨hshown, hlength, hevent⟩ := session_fiveVersions
  split at hevent
  · next d hd =>
    obtain ⟨-, -, -, -, -, -, hedit⟩ :=
      history_is_end_of_path replying plainSettings oneSlide fiveVersions
    obtain ⟨i, hi, -, hafter⟩ := hedit (.edit "shorter", oneSlide) d hd
    cases hshown.symm.trans hi
    have hsix : ((State.reached replying plainSettings oneSlide fiveVersions).session.history.take
        (4 + 1) ++ [d]).length = 6 := by
      rw [List.length_append, List.length_take, hlength]
      rfl
    exact ⟨d, 4, hd, hshown, hsix, hafter.trans (if_pos hsix)⟩
  · cases hevent

end DeckPress.Page
