import DeckPress.Proofs.Compilation
import DeckPress.Proofs.PageActions
import DeckPress.Proofs.PresentationRun
import Mathlib.Data.List.Induction

/-!
# Which version the download belongs to

A page shows one version of its deck and keeps one presentation for download. The presentation is
always that of some version, made when that version was generated, edited or switched to. It is
that of the shown version as long as no switch fails: a switch to a version that cannot be
presented shows the version and keeps the download of another.
-/
namespace DeckPress.Page

open Attempt

variable {σ : Type}

section Changes

variable (services : Services σ) (s : Settings)

/-- The presentation is that of the deck under some settings, in some outside state. -/
def IsRendering (d : Deck Float) (pres : Presentation) : Prop :=
  ∃ t t', (rendering services s d).outcome t = (.ok pres, t')

/-- The version whose button is pressed in vain: it is shown, but it cannot be presented. -/
def Session.failedSwitch? (x : Session) (pressed : Option Button) (t : σ) : Option Nat :=
  match x.version? pressed with
  | some (d, i) => if ((rendering services s d).outcome t).1.isOk then none else some i
  | none => none

def Session.strayed? (x : Session) (t : σ) : Action → Option Nat
  | .version n =>
    match x.current with
    | some _ => x.failedSwitch? services s (some (.version n)) t
    | none => none
  | _ => none

/-- What an action can make of a session, and the version that it switches to in vain. -/
inductive Change (x : Session) : Session → Option Nat → Prop
  | kept : Change x x none
  | cleared : Change x {} none
  | generated {p : Product} (h : IsRendering services s p.deck p.presentation) (said : String) :
      Change x (x.generated p said) none
  | edited {p : Product} (h : IsRendering services s p.deck p.presentation) (said : String) :
      Change x (x.edited p said) none
  | switched {d : Deck Float} {i : Nat} {pres : Presentation} (hd : x.history[i]? = some d)
      (h : IsRendering services s d pres) :
      Change x { x with shown := some i, download := some pres } none
  | strayed {d : Deck Float} {i : Nat} (hd : x.history[i]? = some d) :
      Change x { x with shown := some i } (some i)

end Changes

variable {services : Services σ} {s : Settings}

theorem isRendering_of_produce {deck : Attempt Conversation.Fault σ (Deck Float)} {p : Product}
    {t t' : σ} (h : (Pipeline.produce services (s.compiler services.search) deck).outcome t =
      (.ok p, t')) : IsRendering services s p.deck p.presentation := by
  simp only [Pipeline.produce, outcome_bind_eq_ok, outcome_pure, Prod.mk.injEq,
    Except.ok.injEq] at h
  obtain ⟨d, t₁, -, g, t₂, hg, pres, t₃, hpres, rfl, -⟩ := h
  exact ⟨t₁, t₃, outcome_bind_eq_ok.2 ⟨g, t₂, hg, hpres⟩⟩

theorem change_requested {x : Session} {deck : Attempt Conversation.Fault σ (Deck Float)}
    {done : Product → Session}
    (hdone : ∀ p : Product, IsRendering services s p.deck p.presentation →
      Change services s x (done p) none) (said : String) (t : σ) :
    Change services s x (x.requested s said
      (Pipeline.produce services (s.compiler services.search) deck) done t) none := by
  unfold Session.requested
  split
  · exact .kept
  · rcases hp : (Pipeline.produce services (s.compiler services.search) deck).outcome t with
      ⟨⟨f⟩ | ⟨p⟩, t'⟩
    · exact .kept
    · exact hdone p (isRendering_of_produce hp)

theorem change_switch (x : Session) (pressed : Option Button) (t : σ) :
    Change services s x (x.afterSwitch services s pressed t)
      (x.failedSwitch? services s pressed t) := by
  unfold Session.afterSwitch Session.failedSwitch?
  rcases hv : x.version? pressed with _ | ⟨d, i⟩
  · exact .kept
  · have hd := version?_eq_some hv
    dsimp only
    unfold Session.switched
    rcases hp : (rendering services s d).outcome t with ⟨⟨f⟩ | ⟨pres⟩, t'⟩
    · exact .strayed hd
    · exact .switched hd ⟨t, t', hp⟩

theorem change_next (x : Session) (t : σ) (a : Action) :
    Change services s x (x.next services s t a) (x.strayed? services s t a) := by
  cases a with
  | controls schema canvas strict => exact .kept
  | clear => exact .cleared
  | generate prompt => exact change_requested (fun _ h => .generated h prompt) prompt t
  | edit instruction =>
    unfold Session.next
    cases x.current with
    | some d => exact change_requested (fun _ h => .edited h instruction) instruction t
    | none => exact .kept
  | version n =>
    unfold Session.next Session.strayed?
    cases x.current with
    | some d => exact change_switch x (some (.version n)) t
    | none => exact .kept

theorem kept_concat (ds : List (Deck Float)) (d : Deck Float) :
    Session.kept (ds ++ [d]) = (if 5 ≤ ds.length then ds.tail else ds) ++ [d] := by
  have hlimit : Session.limit < (ds ++ [d]).length ↔ 5 ≤ ds.length := by
    rw [List.length_append, List.length_singleton, Session.limit, Nat.lt_succ_iff]
  rw [Session.kept, ite_cond_congr (propext hlimit)]
  split
  · next h5 => rw [List.tail_append_of_ne_nil (List.ne_nil_of_length_pos (by omega))]
  · rfl

theorem exists_push (x : Session) (d : Deck Float) :
    ∃ ds, (x.push d).history = ds ++ [d] ∧ (x.push d).shown = some ds.length := by
  refine ⟨_, kept_concat x.past d, ?_⟩
  rw [Session.push, kept_concat, List.length_append, List.length_singleton, Nat.add_sub_cancel]

/-- The download of a session is that of the version at a position, under some settings. The
version that is shown is the same, or else the last one of those switched to in vain. -/
structure Session.Carries (services : Services σ) (s : Settings) (x : Session)
    (pres : Presentation) (k : Nat) (strays : List Nat) : Prop where
  download : x.download = some pres
  made : ∃ d, x.history[k]? = some d ∧ IsRendering services s d pres
  shown : x.shown = some (strays.getLast?.getD k)

theorem carries_push {x : Session} {p : Product}
    (h : IsRendering services s p.deck p.presentation) (ts : List Turn) :
    ∃ k, Session.Carries services s
      { x.push p.deck with download := some p.presentation, turns := ts } p.presentation k [] := by
  obtain ⟨ds, hds, hshown⟩ := exists_push x p.deck
  refine ⟨ds.length, rfl, ⟨p.deck, ?_, h⟩, hshown⟩
  change (x.push p.deck).history[ds.length]? = some p.deck
  rw [hds, List.getElem?_concat_length]

/-- After a change the download is new and that of the shown version, or it is the one from
before. -/
theorem carries_of_change {x y : Session} {j : Option Nat} (h : Change services s x y j)
    {pres : Presentation} (hy : y.download = some pres) :
    (∃ k, y.Carries services s pres k []) ∨
      x.download = some pres ∧ ∀ (s' : Settings) (k : Nat) (strays : List Nat),
        x.Carries services s' pres k strays →
          y.Carries services s' pres k (strays ++ j.toList) := by
  cases h with
  | kept => exact .inr ⟨hy, fun s' k strays hx => by simpa using hx⟩
  | cleared => cases hy
  | generated hp said =>
    cases hy
    exact .inl (carries_push hp _)
  | edited hp said =>
    cases hy
    exact .inl (carries_push hp _)
  | switched hd hp =>
    cases hy
    exact .inl ⟨_, rfl, ⟨_, hd, hp⟩, rfl⟩
  | strayed hd =>
    -- the download stays behind: only the shown version moves
    refine .inr ⟨hy, fun s' k strays hx => ⟨hy, hx.made, ?_⟩⟩
    rw [Option.toList_some, List.getLast?_concat, Option.getD_some]

/-- The version that a visit of a page switches to in vain. -/
def State.strayed? (services : Services σ) (s : Settings) (p : State) (v : Action × σ) :
    Option Nat :=
  if v.1.button?.all p.offers then p.session.strayed? services (p.controls.apply s) v.2 v.1
  else none

def State.strays (services : Services σ) (s : Settings) : State → List (Action × σ) → List Nat
  | _, [] => []
  | p, v :: vs =>
    (p.strayed? services s v).toList ++ strays services s (p.after services s v.1 v.2) vs

theorem strays_concat (p : State) (vs : List (Action × σ)) (v : Action × σ) :
    p.strays services s (vs ++ [v]) =
      p.strays services s vs ++ ((p.follow services s vs).strayed? services s v).toList := by
  induction vs generalizing p with
  | nil => exact List.append_nil _
  | cons w vs ih =>
    rw [List.cons_append, State.strays, ih, State.strays, List.append_assoc]
    rfl

theorem change_after (p : State) (v : Action × σ) :
    Change services (p.controls.apply s) p.session (p.after services s v.1 v.2).session
      (p.strayed? services s v) := by
  rw [session_after, State.strayed?]
  split
  · exact change_next ..
  · exact .kept

/-- Along a run the download stays that of the version for which it was made, in the settings of
the page at that time. -/
theorem carries_follow {p : State} (hp : p.session.download = none)
    (visits : List (Action × σ)) {pres : Presentation}
    (h : (p.follow services s visits).session.download = some pres) :
    ∃ earlier v later k, visits = earlier ++ v :: later ∧
      (p.follow services s (earlier ++ [v])).session.download = some pres ∧
      (p.follow services s visits).session.Carries services
        ((p.follow services s earlier).controls.apply s) pres k
        ((p.follow services s (earlier ++ [v])).strays services s later) := by
  -- from the last visit: it made the download, or the one that did is among those before
  induction visits using List.reverseRecOn with
  | nil =>
    rw [State.follow, List.foldl_nil, hp] at h
    cases h
  | append_singleton visits v ih =>
    have hv := h
    rw [follow_concat] at h ⊢
    rcases carries_of_change (change_after _ v) h with ⟨k, hk⟩ | ⟨hold, hkeep⟩
    · exact ⟨visits, v, [], k, rfl, hv, hk⟩
    · obtain ⟨earlier, w, later, k, rfl, hw, hk⟩ := ih hold
      refine ⟨earlier, w, later ++ [v], k, by simp, hw, ?_⟩
      rw [strays_concat]
      have hrun : (p.follow services s (earlier ++ [w])).follow services s later =
          p.follow services s (earlier ++ w :: later) := by
        simp [State.follow]
      rw [hrun]
      exact hkeep _ k _ hk

/-- On every run of the page, the download is that of a version which is still kept, in the settings
of the page when it was made. It is that of the shown version if no switch has failed since; if
some did, the last of them tells which version is shown. -/
theorem download_belongs (services : Services σ) (s : Settings) (t₀ : σ)
    (visits : List (Action × σ)) {pres : Presentation}
    (h : (State.reached services s t₀ visits).session.download = some pres) :
    ∃ (earlier : List (Action × σ)) (v : Action × σ) (later : List (Action × σ)) (k : Nat)
      (d : Deck Float), visits = earlier ++ v :: later ∧
        (State.reached services s t₀ (earlier ++ [v])).session.download = some pres ∧
        (State.reached services s t₀ visits).session.history[k]? = some d ∧
        IsRendering services ((State.reached services s t₀ earlier).controls.apply s) d pres ∧
        ((State.reached services s t₀ (earlier ++ [v])).strays services s later = [] →
          (State.reached services s t₀ visits).session.current = some d) ∧
        ∀ j, ((State.reached services s t₀ (earlier ++ [v])).strays services s later).getLast? =
            some j →
          (State.reached services s t₀ visits).session.shown = some j := by
  have hfirst : (State.first services s t₀).session.download = none := by rw [session_first]
  obtain ⟨earlier, v, later, k, hvisits, hv, hk⟩ := carries_follow hfirst visits h
  have hshown : (State.reached services s t₀ visits).session.shown =
      some (((State.reached services s t₀ (earlier ++ [v])).strays services s
        later).getLast?.getD k) := hk.shown
  obtain ⟨d, hd, hmade⟩ := hk.made
  refine ⟨earlier, v, later, k, d, hvisits, hv, hd, hmade, fun hnone => ?_, fun j hj => ?_⟩
  · rw [hnone, List.getLast?_nil, Option.getD_none] at hshown
    rw [Session.current, hshown]
    exact hd
  · rw [hshown, hj, Option.getD_some]

theorem IsRendering.length_eq {d : Deck Float} {pres : Presentation}
    (h : IsRendering services s d pres) : pres.slides.length = d.slides.length := by
  obtain ⟨t, t', h⟩ := h
  obtain ⟨g, t₁, hg, hp⟩ := outcome_bind_eq_ok.1 h
  rw [Presentation.length_ofDrawing (outcome_adapt_eq_ok.1 hp),
    Compiler.length_compile (outcome_adapt_eq_ok.1 hg)]

def replying : Services Conversation.Reply where
  model := fun _ r => (r, r)
  search := fun _ r => (.error (.transport ""), r)
  fetch := fun _ r => (.error (.system ""), r)

def plainSettings : Settings where
  modelKey := "k"
  model := "m"
  searchKey := ""
  imageMode := .lenient
  slideModel := .templated
  canvas := .standard
  fallbackUrl := Image.defaultFallback
  logLevel := "INFO"

def twoSlides : Conversation.Reply :=
  .ok ⟨some ("\x7b\"slides\": [\x7b\"title\": \"A\", \"imageQuery\": \"lake\"\x7d, " ++
    "\x7b\"title\": \"B\"\x7d]\x7d"), ""⟩

def oneSlide : Conversation.Reply := .ok ⟨some "\x7b\"slides\": [\x7b\"title\": \"A\"\x7d]\x7d", ""⟩

/-- A deck with an image is edited to one without; from then on a missing image is an error, so
that the first version cannot be presented any more. -/
def strictVisits : List (Action × Conversation.Reply) :=
  [(.generate "lakes", twoSlides), (.edit "shorter", oneSlide),
    (.controls none none (some true), oneSlide), (.version 1, oneSlide)]

theorem session_strictVisits :
    let x := (State.reached replying plainSettings oneSlide strictVisits).session
    x.shown = some 0 ∧ x.history.map (·.slides.length) = [2, 1] ∧
      x.download.map (·.slides.length) = some 1 := by
  decide +kernel

theorem download_belongs_strictVisits :
    ∃ (pres : Presentation) (earlier : List (Action × Conversation.Reply))
      (v : Action × Conversation.Reply) (later : List (Action × Conversation.Reply)) (k : Nat)
      (d : Deck Float),
        (State.reached replying plainSettings oneSlide strictVisits).session.download = some pres ∧
        strictVisits = earlier ++ v :: later ∧
        (State.reached replying plainSettings oneSlide (earlier ++ [v])).session.download =
          some pres ∧
        (State.reached replying plainSettings oneSlide strictVisits).session.history[k]? = some d ∧
        IsRendering replying ((State.reached replying plainSettings oneSlide
          earlier).controls.apply plainSettings) d pres ∧
        ((State.reached replying plainSettings oneSlide (earlier ++ [v])).strays replying
            plainSettings later = [] →
          (State.reached replying plainSettings oneSlide strictVisits).session.current = some d) ∧
        ∀ j, ((State.reached replying plainSettings oneSlide (earlier ++ [v])).strays replying
            plainSettings later).getLast? = some j →
          (State.reached replying plainSettings oneSlide strictVisits).session.shown = some j := by
  obtain ⟨-, -, hd⟩ := session_strictVisits
  obtain ⟨pres, hpres, -⟩ := Option.map_eq_some_iff.1 hd
  obtain ⟨earlier, v, later, k, d, h⟩ :=
    download_belongs replying plainSettings oneSlide strictVisits hpres
  exact ⟨pres, earlier, v, later, k, d, hpres, h⟩

/-- A switch that fails leaves the page on one version and the download on another. -/
theorem download_of_hidden_version :
    ¬ ∀ (τ : Type) (services : Services τ) (s : Settings) (t₀ : τ) (visits : List (Action × τ))
        (pres : Presentation) (d : Deck Float),
        (State.reached services s t₀ visits).session.download = some pres →
          (State.reached services s t₀ visits).session.current = some d →
            ∃ s', IsRendering services s' d pres := by
  intro h
  obtain ⟨hshown, hhistory, hdownload⟩ := session_strictVisits
  obtain ⟨pres, hpres, hone⟩ := Option.map_eq_some_iff.1 hdownload
  obtain ⟨d, ds, hds, htwo, -⟩ := List.map_eq_cons_iff.1 hhistory
  have hcurrent : (State.reached replying plainSettings oneSlide strictVisits).session.current =
      some d := by
    rw [Session.current, hshown, hds]
    rfl
  obtain ⟨s', hmade⟩ := h _ replying plainSettings oneSlide strictVisits pres d hpres hcurrent
  have hlength := hmade.length_eq
  omega

end DeckPress.Page
