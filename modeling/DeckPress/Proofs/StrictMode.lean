import DeckPress.Proofs.AcceptedDecks
import DeckPress.Proofs.CompilationOutcome
import DeckPress.Proofs.SideBySide
import DeckPress.Rehearsal

/-!
# Strict and lenient compilations

Strictness is asked about twice: by a search that does not understand a reply, and by a compiler
that got no image. Both times a strict compilation ends for want of an image, so whatever else it
comes to, a lenient one comes to the same, and leaves the search service in the same state.
-/
namespace DeckPress

open Attempt

namespace Image.Search

def withStrict (s : Search) (strict : Bool) : Search := { s with strict := strict }

/-- A reply means the same to both, unless the strict search finds no image. -/
theorem ofReply_strict_or (s : Search) (query : String) (slide : Int) (r : Reply String) :
    (s.withStrict true).ofReply query slide r = (s.withStrict false).ofReply query slide r ∨
      ∃ reason, (s.withStrict true).ofReply query slide r = .ok (.missed query reason) := by
  match r with
  | .error (.transport reason) => exact .inr ⟨reason, rfl⟩
  | .error (.nonsense reason) => exact .inr ⟨reason, rfl⟩
  | .error (.system reason) => exact .inl rfl
  | .ok r =>
    unfold ofReply
    dsimp only
    split
    · exact .inl rfl
    · split
      · exact .inr ⟨_, rfl⟩
      · exact .inl rfl
      · exact .inl rfl

end Image.Search

namespace Compiler

variable {α σ : Type}

theorem unresolved_isImage {c : Compiler α σ} (hs : c.strict = true) (slide : Nat) (n : Need)
    (reason : String) : ∃ f, Fault.IsImage f ∧ c.unresolved slide n reason = .error f :=
  ⟨_, ⟨slide, n, reason, rfl⟩, if_pos hs⟩

/-- Of an answer that is no image a strict compiler makes a fault, and an image is the same to
all. -/
theorem ofAnswer_isImage_or {c : Compiler α σ} (hs : c.strict = true) (c' : Compiler α σ)
    (slide : Nat) (n : Need) (a : Image.Answer) :
    (∃ f, Fault.IsImage f ∧ c.ofAnswer slide n a = .error f) ∨
      c.ofAnswer slide n a = c'.ofAnswer slide n a := by
  cases a with
  | found image => exact .inr rfl
  | missed query reason => exact .inl (unresolved_isImage hs slide n reason)
  | nothing => exact .inl (unresolved_isImage hs slide n "")

/-- A strict and a lenient compiler with one search service. -/
theorem resolve_runsLike {c c' : Compiler α σ} (hs : c.strict = true) (s : Image.Search)
    (service : Image.Search.Call → StateM σ (Reply String))
    (hr : c.resolver = none ∧ c'.resolver = none ∨
      c.resolver = some ((s.withStrict true).resolver service) ∧
        c'.resolver = some ((s.withStrict false).resolver service))
    (slide : Nat) (n : Need) :
    RunsLike Eq Fault.IsImage (c.resolve slide n) (c'.resolve slide n) := by
  unfold resolve
  split
  · exact runsLike_pure _
  · obtain ⟨hnone, hnone'⟩ | ⟨hsome, hsome'⟩ := hr
    · rw [hnone, hnone']
      exact fun _ _ _ => .inl (unresolved_isImage hs slide n noResolver)
    · rw [hsome, hsome']
      rintro t _ rfl
      -- both ask for the same and get the same reply
      let query := Image.searchQuery n.query n.text
      let asked := service (s.call query) t
      have hstrict : ((s.withStrict true).resolver service (n.request slide)).outcome t =
          ((s.withStrict true).ofReply query slide asked.1, asked.2) := rfl
      have hlenient : ((s.withStrict false).resolver service (n.request slide)).outcome t =
          ((s.withStrict false).ofReply query slide asked.1, asked.2) := rfl
      simp only [outcome_bind, outcome_adapt, hstrict, hlenient, outcome_ofExcept]
      obtain hsame | ⟨reason, hmissed⟩ := s.ofReply_strict_or query slide asked.1
      · rw [hsame]
        cases (s.withStrict false).ofReply query slide asked.1 with
        | error f => exact .inr ⟨rfl, rfl⟩
        | ok a => exact (ofAnswer_isImage_or hs c' slide n a).imp_right fun h => ⟨h, rfl⟩
      · rw [hmissed]
        exact .inl (unresolved_isImage hs slide n reason)

end Compiler

namespace Settings

open Compiler Validation

def inMode (s : Settings) (mode : ImageMode) : Settings := { s with imageMode := mode }

theorem looksUpLike {α σ : Type} [Scalar α] (s : Settings)
    (service : Image.Search.Call → StateM σ (Reply String)) :
    LooksUpLike Eq Fault.IsImage ((s.inMode .strict).compiler service : Compiler α σ)
      ((s.inMode .lenient).compiler service) where
  canvas := rfl
  palette := rfl
  resolve := by
    apply resolve_runsLike rfl s.search service
    cases hkey : s.searchKey.isEmpty with
    | true => exact .inl ⟨if_pos hkey, if_pos hkey⟩
    | false => exact .inr ⟨if_neg (Bool.eq_false_iff.1 hkey), if_neg (Bool.eq_false_iff.1 hkey)⟩

section Environments

variable {env env' : Environment} {name : String} (h : env.lookup name = env'.lookup name)
include h

theorem key_congr : key env name = key env' name := by rw [key, key, h]

theorem value_congr (default : String) : value env name default = value env' name default := by
  simp only [value, value?, h]

theorem chosen_congr {β : Type} {field : String} {words : List (String × β)} {default a b : β}
    (ha : chosen env name field words default = .valid a)
    (hb : chosen env' name field words default = .valid b) : a = b := by
  have hsame : chosen env name field words default = chosen env' name field words default := by
    simp only [chosen, value?, h]
  exact Checked.valid.inj (ha.symm.trans (hsame.trans hb))

end Environments

theorem check_of_load {env : Environment} {s : Settings} (h : load env = .ok s) :
    check env = .valid s := by
  unfold load Checked.toExcept at h
  split at h
  · next hcheck =>
    cases h
    exact hcheck
  · cases h

/-- Settings of environments that differ in the image mode differ in the image mode. -/
theorem inMode_of_load {env env' : Environment} {s s' : Settings}
    (henv : ∀ name, name ≠ "SLIDECRAFT_IMAGE_MODE" → env.lookup name = env'.lookup name)
    (hs : load env = .ok s) (hs' : load env' = .ok s') : s = s'.inMode s.imageMode := by
  have hcheck := check_of_load hs
  have hcheck' := check_of_load hs'
  simp only [check, Checked.seq_eq_valid, Checked.functor_map_eq_valid] at hcheck hcheck'
  obtain ⟨_, canvas, ⟨_, slides, ⟨mode, -, rfl⟩, hslides, rfl⟩, hcanvas, rfl⟩ := hcheck
  obtain ⟨_, canvas', ⟨_, slides', ⟨mode', -, rfl⟩, hslides', rfl⟩, hcanvas', rfl⟩ := hcheck'
  rw [inMode, chosen_congr (henv _ (by decide)) hslides hslides',
    chosen_congr (henv _ (by decide)) hcanvas hcanvas', key_congr (henv "OPENAI_API_KEY" (by decide)),
    key_congr (henv "UNSPLASH_ACCESS_KEY" (by decide)), value_congr (henv "OPENAI_MODEL" (by decide)),
    value_congr (henv "SLIDECRAFT_FALLBACK_IMAGE_URL" (by decide)),
    value_congr (henv "SLIDECRAFT_LOG_LEVEL" (by decide))]

/-- Of two environments that differ in the image mode alone, the strict one lets a compilation come
to what the lenient one lets it come to, with the same searches made, or to a missing image. -/
theorem strict_refines_lenient {σ : Type} {env env' : Environment} {s s' : Settings}
    (hs : load env = .ok s) (hs' : load env' = .ok s') (hmode : s.imageMode = .strict)
    (hmode' : s'.imageMode = .lenient)
    (henv : ∀ name, name ≠ "SLIDECRAFT_IMAGE_MODE" → env.lookup name = env'.lookup name)
    (service : Image.Search.Call → StateM σ (Reply String)) (data : Json) (t : σ) :
    let strict := ((s.compiler service : Compiler Float σ).compileData data).outcome t
    let lenient := ((s'.compiler service : Compiler Float σ).compileData data).outcome t
    (∀ g, strict.1 = .ok g → lenient = strict) ∧
      (∀ f, strict.1 = .error f → ¬Fault.IsImage f → lenient = strict) ∧
      ∀ f, lenient.1 = .error f →
        strict.1 = .error f ∨ ∃ f', Fault.IsImage f' ∧ strict.1 = .error f' := by
  intro strict lenient
  have hstrict : s = s'.inMode .strict := hmode ▸ inMode_of_load henv hs hs'
  have hlenient : s' = s'.inMode .lenient := by rw [inMode, ← hmode']
  have halike : (∃ f, Fault.IsImage f ∧ strict.1 = .error f) ∨ strict = lenient := by
    have hrun := (s'.looksUpLike service).compileData data t t rfl
    rw [← hstrict, ← hlenient] at hrun
    exact hrun.imp_right fun ⟨hresult, hstate⟩ => Prod.ext hresult hstate
  obtain ⟨f, hf, hfault⟩ | hsame := halike
  · refine ⟨fun g hg => ?_, fun f' hf' hn => ?_, fun _ _ => .inr ⟨f, hf, hfault⟩⟩
    · cases hfault.symm.trans hg
    · cases hfault.symm.trans hf'
      exact absurd hf hn
  · rw [hsame]
    exact ⟨fun _ _ => rfl, fun _ _ _ => rfl, fun _ h => .inl h⟩

def modeEnvironment (mode : String) : Environment :=
  [("UNSPLASH_ACCESS_KEY", "k"), ("SLIDECRAFT_IMAGE_MODE", mode)]

theorem load_modeEnvironment :
    ((load (modeEnvironment " Strict")).toOption.any fun s => s.imageMode == .strict) = true ∧
      ((load (modeEnvironment "lenient")).toOption.any fun s => s.imageMode == .lenient) = true := by
  decide +kernel

def unwillingFirst : Rehearsal where
  model := ⟨[], []⟩
  search := ⟨[.ok ⟨503, ""⟩,
    .ok ⟨200, "\x7b\"results\": [\x7b\"urls\": \x7b\"regular\": \"https://a/b\"\x7d\x7d]\x7d"⟩], []⟩

def twoQueries : Json :=
  .arr [.obj [("title", .str "Lakes"), ("imageQuery", .str "lake")],
    .obj [("title", .str "Hills"), ("imageQuery", .str "hill")]]

/-- Whether the compilation returns under the settings of an environment, and how many searches it
makes. -/
def searchesOf (env : Environment) : Option (Bool × Nat) :=
  (load env).toOption.map fun s =>
    let out := ((s.compiler Rehearsal.askSearch : Compiler Float Rehearsal).compileData
      twoQueries).outcome unwillingFirst
    (out.1.isOk, out.2.search.asked.length)

theorem strict_refines_lenient_unwillingFirst :
    ∃ s s' g t, load (modeEnvironment " Strict") = .ok s ∧
      load (modeEnvironment "lenient") = .ok s' ∧
      ((s.compiler Rehearsal.askSearch).compileData twoQueries).outcome unwillingFirst =
        (.ok g, t) ∧
      ((s'.compiler Rehearsal.askSearch).compileData twoQueries).outcome unwillingFirst =
        (.ok g, t) ∧ t.search.asked.length = 2 := by
  obtain ⟨hstrict, hlenient⟩ := load_modeEnvironment
  obtain ⟨s, hs, hmode⟩ := exists_eq_ok_of_any hstrict
  obtain ⟨s', hs', hmode'⟩ := exists_eq_ok_of_any hlenient
  have henv (name : String) (hn : name ≠ "SLIDECRAFT_IMAGE_MODE") :
      (modeEnvironment " Strict").lookup name = (modeEnvironment "lenient").lookup name := by
    have hother : (name == "SLIDECRAFT_IMAGE_MODE") = false := beq_eq_false_iff_ne.2 hn
    simp only [modeEnvironment, List.lookup_cons, hother]
  have hreturns : searchesOf (modeEnvironment " Strict") = some (true, 2) := by decide +kernel
  rw [searchesOf, hs] at hreturns
  obtain ⟨hok, hasked⟩ := Prod.mk.inj (Option.some.inj hreturns)
  obtain ⟨g, t, hg⟩ := exists_of_isOk hok
  obtain ⟨hsame, -, -⟩ := strict_refines_lenient hs hs' (eq_of_beq hmode) (eq_of_beq hmode') henv
    Rehearsal.askSearch twoQueries unwillingFirst
  refine ⟨s, s', g, t, hs, hs', hg, (hsame g (by rw [hg])).trans hg, ?_⟩
  rw [hg] at hasked
  exact hasked

end Settings

end DeckPress
