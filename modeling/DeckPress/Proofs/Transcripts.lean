import DeckPress.Proofs.CompilationOutcome
import DeckPress.Proofs.SideBySide
import DeckPress.Rehearsal

/-!
# Transcripts of resolvers

A resolver that keeps a transcript answers as it does without one. The transcript of a compilation
tells that the images of the deck were asked for one after the other, each of them once, up to an
answer that ended the compilation. A search makes one call for each, so that prepared replies are
taken up in this order.
-/
namespace DeckPress

open Attempt

namespace Image

/-- What a resolver was asked, and what that came to. -/
abbrev Transcript := List (Request × Except Search.Fault Answer)

namespace Transcript

def asked (log : Transcript) : List Request := log.map Prod.fst

/-- The transcript begins with the first of the requests and goes on to the last of them, unless an
answer ends it. -/
structure IsUpTo (Ends : Except Search.Fault Answer → Prop) (qs : List Request)
    (log : Transcript) : Prop where
  asked_prefix : log.asked <+: qs
  goesOn : ∀ e ∈ log.dropLast, ¬Ends e.2
  ended : log.asked ≠ qs → ∃ e, log.getLast? = some e ∧ Ends e.2

end Transcript

namespace Resolver

variable {σ : Type}

/-- The resolver with a transcript. -/
def recorded (r : Resolver σ) : Resolver (σ × Transcript) := fun q u =>
  let (a, t) := (r q).outcome u.1
  (a, t, u.2 ++ [(q, a)])

theorem outcome_recorded {r : Resolver σ} {q : Request} {t t' : σ}
    {a : Except Search.Fault Answer} (h : (r q).outcome t = (a, t')) (log : Transcript) :
    (r.recorded q).outcome (t, log) = (a, t', log ++ [(q, a)]) := by
  change (((r q).outcome t).1, ((r q).outcome t).2, log ++ [(q, ((r q).outcome t).1)]) = _
  rw [h]

/-- The resolver is asked for the requests in turn, until an answer ends it. -/
inductive Consults (r : Resolver σ) (Ends : Except Search.Fault Answer → Prop) :
    List Request → σ → Transcript → σ → Prop
  | nil (t : σ) : Consults r Ends [] t [] t
  | ended {q : Request} {qs : List Request} {a : Except Search.Fault Answer} {t t' : σ}
      (h : (r q).outcome t = (a, t')) (ha : Ends a) : Consults r Ends (q :: qs) t [(q, a)] t'
  | cons {q : Request} {qs : List Request} {a : Except Search.Fault Answer} {log : Transcript}
      {t u t' : σ} (h : (r q).outcome t = (a, u)) (ha : ¬Ends a)
      (tail : Consults r Ends qs u log t') : Consults r Ends (q :: qs) t ((q, a) :: log) t'

variable {r : Resolver σ} {Ends : Except Search.Fault Answer → Prop} {qs : List Request}
  {log : Transcript} {t t' : σ}

theorem Consults.isUpTo (h : r.Consults Ends qs t log t') : log.IsUpTo Ends qs := by
  induction h with
  | nil t => exact ⟨List.prefix_refl [], nofun, fun hne => absurd rfl hne⟩
  | @ended q qs a t t' h ha => exact ⟨⟨qs, rfl⟩, nofun, fun _ => ⟨(q, a), rfl, ha⟩⟩
  | @cons q qs a log t u t' h ha tail ih =>
    refine ⟨?_, ?_, ?_⟩
    · exact List.cons_prefix_cons.2 ⟨rfl, ih.asked_prefix⟩
    · intro e he
      cases log with
      | nil => cases he
      | cons e' log =>
        rcases List.mem_cons.1 he with rfl | he
        · exact ha
        · exact ih.goesOn e he
    · intro hne
      obtain ⟨e, he, hends⟩ := ih.ended fun heq => hne (congrArg (q :: ·) heq)
      exact ⟨e, by rw [List.getLast?_cons, he]; rfl, hends⟩

theorem Consults.asked_eq (h : r.Consults Ends qs t log t')
    (hr : ∀ q u, ¬Ends ((r q).outcome u).1) : log.asked = qs := by
  induction h with
  | nil t => rfl
  | @ended q qs a t t' h ha =>
    have hgoes := hr q t
    rw [h] at hgoes
    exact absurd ha hgoes
  | @cons q qs a log t u t' h ha tail ih => exact congrArg (q :: ·) ih

end Resolver

end Image

open Image

namespace Compiler

variable {α σ τ : Type}

def withResolver (c : Compiler α σ) (r : Resolver τ) : Compiler α τ where
  canvas := c.canvas
  strict := c.strict
  fallbackUrl := c.fallbackUrl
  palette := c.palette
  resolver := some r

/-- What an answer comes to ends the compilation. -/
def Ends (strict : Bool) : Except Search.Fault Answer → Prop
  | .error _ => True
  | .ok (.found _) => False
  | .ok _ => strict = true

theorem conclude_eq_error (c : Compiler α σ) (w : Wish) (a : Except Search.Fault Answer) :
    (∃ f, c.conclude w a = .error f) ↔ Ends c.strict a := by
  have hunresolved (reason : String) :
      (∃ f, c.unresolved w.slide w.need reason = .error f) ↔ c.strict = true := by
    cases hs : c.strict <;> simp [unresolved, hs]
  cases a with
  | error f => exact iff_of_true ⟨_, rfl⟩ trivial
  | ok a =>
    cases a with
    | found image =>
      refine iff_of_false ?_ id
      rintro ⟨f, hf⟩
      cases hf
    | missed query reason => exact hunresolved reason
    | nothing => exact hunresolved ""

theorem outcome_lookUp_recorded (c : Compiler α σ) {r : Resolver τ} {w : Wish}
    (h : ¬w.IsDirect) {t t' : τ} {a : Except Search.Fault Answer}
    (ha : (r w.request).outcome t = (a, t')) (log : Transcript) :
    ((c.withResolver r.recorded).lookUp w).outcome (t, log) =
      (c.conclude w a, t', log ++ [(w.request, a)]) := by
  rw [outcome_lookUp h rfl (Resolver.outcome_recorded ha log)]
  rfl

theorem round_consults (c : Compiler α σ) (r : Resolver τ) (ws : List Wish) (t : τ)
    (log : Transcript) :
    ∃ new t', (outcome (forM ws (c.withResolver r.recorded).attend) (t, log)).2 =
        (t', log ++ new) ∧ r.Consults (Ends c.strict) (Wish.requests ws) t new t' := by
  induction ws generalizing t log with
  | nil => exact ⟨[], t, by rw [List.append_nil]; rfl, .nil t⟩
  | cons w ws ih =>
    rw [List.forM_cons, outcome_bind, attend, outcome_effect]
    by_cases hw : w.IsDirect
    · -- no request is made, and the transcript stays as it is
      rw [lookUp_of_direct _ hw, Wish.requests_cons_of_direct hw]
      exact ih t log
    · obtain ⟨a, u, ha⟩ : ∃ a u, (r w.request).outcome t = (a, u) := ⟨_, _, rfl⟩
      rw [outcome_lookUp_recorded c hw ha, Wish.requests_cons hw]
      have hends := conclude_eq_error c w a
      cases hc : c.conclude w a with
      | error f => exact ⟨_, u, rfl, .ended ha (hends.1 ⟨f, hc⟩)⟩
      | ok image =>
        have hgoes : ¬Ends c.strict a := by
          rw [← hends, hc]
          exact nofun
        obtain ⟨new, t', hstate, hconsults⟩ := ih u (log ++ [(w.request, a)])
        refine ⟨(w.request, a) :: new, t', ?_, .cons ha hgoes hconsults⟩
        rw [List.append_assoc] at hstate
        exact hstate

theorem looksUpLike_recorded (c : Compiler α σ) (r : Resolver τ) :
    LooksUpLike (fun u t => u.1 = t) (fun _ => False) (c.withResolver r.recorded)
      (c.withResolver r) where
  canvas := rfl
  palette := rfl
  resolve index n := by
    unfold resolve
    split
    · exact runsLike_pure _
    · refine RunsLike.bind (RunsLike.adapt ?_ fun _ h => h) fun a => runsLike_ofExcept _
      rintro ⟨t, log⟩ _ rfl
      exact .inr ⟨rfl, rfl⟩

theorem compile_consults {c : Compiler Float σ} {k : CanvasChoice} (hk : c.canvas = k.canvas)
    (d : Deck Float) (r : Resolver τ) (t : τ) :
    r.Consults (Ends c.strict) d.requests t
      (((c.withResolver r.recorded).compile d).outcome (t, [])).2.2
      (((c.withResolver r.recorded).compile d).outcome (t, [])).2.1 := by
  have hk' : (c.withResolver r.recorded).canvas = k.canvas := hk
  obtain ⟨log, t', hstate, hconsults⟩ := round_consults c r d.wishes t []
  rw [state_compile (assembles_of_choice hk'), hstate]
  exact hconsults

end Compiler

namespace Image.Search

/-- The call for a request. -/
def callFor (s : Search) (q : Request) : Call where
  url := s.endpoint
  query := searchQuery q.query q.text
  orientation := "landscape"
  perPage := s.perPage
  authorization := "Client-ID " ++ s.accessKey
  version := "v1"
  timeout := 10

def answerTo (s : Search) (q : Request) : Reply String → Except Fault Answer :=
  s.ofReply (searchQuery q.query q.text) q.slide

theorem outcome_resolver_askSearch (s : Search) (q : Request) (u : Rehearsal) :
    (s.resolver Rehearsal.askSearch q).outcome u =
      (s.answerTo q (u.search.pending[0]?.getD Rehearsal.exhausted),
        { u with search := ⟨u.search.pending.drop 1, u.search.asked ++ [s.callFor q]⟩ }) := by
  obtain ⟨model, ⟨_ | ⟨reply, replies⟩, asked⟩, fetched, consulted⟩ := u <;> rfl

variable {Ends : Except Fault Answer → Prop} {qs : List Request} {log : Transcript}
  {s : Search} {u u' : Rehearsal}

theorem rehearsal_of_consults
    (h : Resolver.Consults (s.resolver Rehearsal.askSearch) Ends qs u log u') :
    u' = { u with search := ⟨u.search.pending.drop log.length,
      u.search.asked ++ log.asked.map s.callFor⟩ } := by
  induction h with
  | nil u => simp [Transcript.asked]
  | ended h _ =>
    rw [outcome_resolver_askSearch] at h
    cases h
    rfl
  | cons h _ _ ih =>
    rw [outcome_resolver_askSearch] at h
    cases h
    simp [ih, Transcript.asked]

theorem reply_of_consults
    (h : Resolver.Consults (s.resolver Rehearsal.askSearch) Ends qs u log u') {i : Nat}
    {q : Request} {a : Except Fault Answer} (hi : log[i]? = some (q, a)) :
    a = s.answerTo q (u.search.pending[i]?.getD Rehearsal.exhausted) := by
  induction h generalizing i with
  | nil u => cases hi
  | ended h _ =>
    rw [outcome_resolver_askSearch] at h
    cases h
    cases i with
    | zero => cases hi; rfl
    | succ i => cases hi
  | cons h _ _ ih =>
    rw [outcome_resolver_askSearch] at h
    cases h
    cases i with
    | zero => cases hi; rfl
    | succ i =>
      -- the requests that follow find a script without its first reply
      have htail := ih hi
      rwa [List.getElem?_drop, Nat.add_comm] at htail

end Image.Search

namespace Compiler

section Transcript

variable {σ τ : Type} {c : Compiler Float σ} {k : CanvasChoice} (hk : c.canvas = k.canvas)
  (d : Deck Float)
include hk

theorem compile_recorded (r : Resolver τ) (t : τ) :
    let plain := ((c.withResolver r).compile d).outcome t
    let run := ((c.withResolver r.recorded).compile d).outcome (t, [])
    run.1 = plain.1 ∧ run.2.1 = plain.2 ∧ run.2.2.IsUpTo (Ends c.strict) d.requests ∧
      (r.Answers → c.strict = false → run.2.2.asked = d.requests) := by
  intro plain run
  have hconsults := compile_consults hk d r t
  obtain ⟨f, hf, -⟩ | ⟨hresult, hstate⟩ :=
    (looksUpLike_recorded c r).compile d (t, []) t rfl
  · cases hf
  · refine ⟨hresult, hstate, hconsults.isUpTo, fun hr hs => hconsults.asked_eq fun q u => ?_⟩
    obtain ⟨a, u', ha⟩ := hr q u
    rw [ha, hs]
    cases a <;> exact nofun

/-- A transcript changes nothing about a compilation, and it tells that the images of the deck were
asked for in turn up to an answer that ended the compilation. In a lenient one no answer does. A
search makes one call for each of them, with the query for the image and the text of its slide, and
its replies answer them in their order. -/
theorem compile_asks_in_turn :
    (∀ (τ : Type) (r : Resolver τ) (t : τ),
      let plain := ((c.withResolver r).compile d).outcome t
      let run := ((c.withResolver r.recorded).compile d).outcome (t, [])
      run.1 = plain.1 ∧ run.2.1 = plain.2 ∧ run.2.2.IsUpTo (Ends c.strict) d.requests ∧
        (r.Answers → c.strict = false → run.2.2.asked = d.requests)) ∧
    ∀ (s : Search) (u : Rehearsal),
      let search := s.resolver Rehearsal.askSearch
      let plain := ((c.withResolver search).compile d).outcome u
      let log : Transcript :=
        (((c.withResolver search.recorded).compile d).outcome (u, [])).2.2
      plain.2 = { u with search := ⟨u.search.pending.drop log.length,
          u.search.asked ++ log.asked.map fun q =>
            { url := s.endpoint
              query := searchQuery q.query q.text
              orientation := "landscape"
              perPage := s.perPage
              authorization := "Client-ID " ++ s.accessKey
              version := "v1"
              timeout := 10 }⟩ } ∧
        ∀ (i : Nat) q a, log[i]? = some (q, a) → d.requests[i]? = some q ∧
          a = s.ofReply (searchQuery q.query q.text) q.slide
            (u.search.pending[i]?.getD Rehearsal.exhausted) := by
  refine ⟨fun τ r t => compile_recorded hk d r t, fun s u => ?_⟩
  intro search plain log
  obtain ⟨-, hstate, hupTo, -⟩ := compile_recorded hk d search u
  have hconsults := compile_consults hk d search u
  refine ⟨hstate.symm.trans (Search.rehearsal_of_consults hconsults), fun i q a hi => ⟨?_, ?_⟩⟩
  · have hasked : log.asked[i]? = some q := by rw [Transcript.asked, List.getElem?_map, hi]; rfl
    obtain ⟨hlt, hq⟩ := List.getElem?_eq_some_iff.1 hasked
    rw [List.prefix_iff_getElem?.1 hupTo.asked_prefix i hlt, hq]
  · exact Search.reply_of_consults hconsults hi

end Transcript

/-- A search that takes silence for no answer. -/
def photoSearch : Search := { accessKey := "key", strict := true, perPage := 3 }

/-- A service that is down at first and then unwilling. -/
def downThenUnwilling : Rehearsal where
  model := ⟨[], []⟩
  search := ⟨[.error (.transport "down"), .ok ⟨503, ""⟩], []⟩

def riverRequests : List Request := [⟨"a lake", 0, "Lakes "⟩, ⟨"rivers", 1, "Map"⟩]

theorem asked_riverDeck :
    ((Deck.parse riverDeck).toOption.any fun d =>
      let lenient : Compiler Float Bool := { canvas := .widescreen }
      let search := photoSearch.resolver Rehearsal.askSearch
      let log : Transcript :=
        (((lenient.withResolver search.recorded).compile d).outcome (downThenUnwilling, [])).2.2
      decide (log.asked = riverRequests)) = true := by
  decide +kernel

theorem compile_asks_in_turn_riverDeck :
    ∃ d, Deck.parse riverDeck = .ok d ∧ d.requests = riverRequests ∧
      let lenient : Compiler Float Bool := { canvas := .widescreen }
      let run := ((lenient.withResolver findsOnce.recorded).compile d).outcome (false, [])
      let search := photoSearch.resolver Rehearsal.askSearch
      let searched := ((lenient.withResolver search).compile d).outcome downThenUnwilling
      let log : Transcript :=
        (((lenient.withResolver search.recorded).compile d).outcome (downThenUnwilling, [])).2.2
      (run.1.isOk = true ∧ run.2.2.asked = d.requests) ∧
        searched.2.search.pending = [] ∧
        searched.2.search.asked =
          ["a lake Lakes", "rivers"].map (fun query =>
            ⟨"https://api.unsplash.com/search/photos", query, "landscape", 3, "Client-ID key", "v1",
              10⟩) ∧
        log.map Prod.snd =
          [.ok (.missed "a lake Lakes" "down"), .ok (.found ⟨defaultFallback, true⟩)] := by
  obtain ⟨d, hp, hdec⟩ := exists_eq_ok_of_any parse_riverDeck
  obtain ⟨hd, hwishes⟩ := of_decide_eq_true hdec
  obtain ⟨d', hp', hlog⟩ := exists_eq_ok_of_any asked_riverDeck
  cases hp.symm.trans hp'
  have hanswers : findsOnce.Answers := fun q found => ⟨_, true, rfl⟩
  have hrequests : d.requests = riverRequests := by
    rw [Deck.requests, hwishes]
    decide
  refine ⟨d, hp, hrequests, ?_⟩
  intro lenient run search searched log
  have hasked : log.asked = riverRequests := of_decide_eq_true hlog
  obtain ⟨hall, hsearch⟩ := compile_asks_in_turn (c := lenient) (k := .widescreen) rfl d
  obtain ⟨hresult, -, -, hround⟩ := hall Bool findsOnce false
  obtain ⟨g, hg⟩ := compile_of_lenient (c := lenient.withResolver findsOnce) (k := .widescreen) rfl
    (by rintro _ ⟨⟩; exact hanswers) hd rfl false
  obtain ⟨hstate, hreplies⟩ := hsearch photoSearch downThenUnwilling
  have hlength : log.length = 2 := by
    rw [← List.length_map (f := Prod.fst), show log.map Prod.fst = _ from hasked]
    rfl
  refine ⟨⟨by rw [hresult, hg]; rfl, hround hanswers rfl⟩, ?_, ?_, ?_⟩
  · rw [show searched.2 = _ from hstate, show List.length _ = _ from hlength]
    rfl
  · have hqueries : ["a lake Lakes", "rivers"] =
        riverRequests.map fun q => searchQuery q.query q.text := by decide +kernel
    rw [show searched.2 = _ from hstate, show Transcript.asked _ = _ from hasked, hqueries,
      List.map_map]
    rfl
  · have hreply (i : Nat) {e : Request × Except Search.Fault Answer} (he : log[i]? = some e) :
        riverRequests[i]? = some e.1 ∧
          e.2 = photoSearch.ofReply (searchQuery e.1.query e.1.text) e.1.slide
            (downThenUnwilling.search.pending[i]?.getD Rehearsal.exhausted) := by
      rw [← hrequests]
      exact hreplies i e.1 e.2 he
    obtain ⟨⟨q₀, a₀⟩, ⟨q₁, a₁⟩, hpair⟩ := List.length_eq_two.1 hlength
    rw [hpair] at hreply ⊢
    obtain ⟨h₀, ha₀⟩ := hreply 0 rfl
    obtain ⟨h₁, ha₁⟩ := hreply 1 rfl
    cases h₀
    cases h₁
    rw [List.map_cons, List.map_singleton, ha₀, ha₁]
    dsimp only
    decide +kernel

end Compiler

end DeckPress
