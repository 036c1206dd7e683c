import DeckPress.Image.Search
import DeckPress.Proofs.Attempt

/-!
# What an image search answers

A search that returns answers with an image or with the reason why there is none. It returns on
every reply that can be read and whose page has the form of a page of results; a page of another
form breaks it off, strict or not, as the look at the results is not guarded.
-/
namespace DeckPress.Image.Search

open Attempt

def field (key : String) : Json → Json
  | .obj es => (Json.Entries.get? es key).getD .null
  | _ => .null

/-- An object, or something vain in its place. -/
def HasEntries (v : Json) : Prop := v.isVain ∨ ∃ es, v = .obj es

def address (result : Json) : Json := field "regular" (field "urls" result)

/-- A result as the service gives it, but that any of its parts may be vain or missing. -/
structure IsResult (v : Json) : Prop where
  entries : HasEntries v
  urls : HasEntries (field "urls" v)
  address : (address v).isVain ∨ ∃ u, address v = .str u

/-- A page without results, or with a list of them in which the one for the slide is admitted. -/
def IsPage (slide : Int) (page : Json) : Prop :=
  (results page).isVain ∨
    ∃ items v, results page = .arr items ∧ cycled items slide = some v ∧ IsResult v

/-- A reply on which a search returns. -/
def IsUsable (slide : Int) : Reply String → Prop
  | .error (.system _) => False
  | .error _ => True
  | .ok r =>
    r.isRateLimited ∨ r.isError ∨
      match Json.Body.read r.body with
      | .error (.malformed _) => True
      | .error .tooDeep => False
      | .ok page => IsPage slide page

/-- What a reply comes to for a slide. -/
inductive Comes (s : Search) (query : String) (slide : Int) : Reply String → Answer → Prop
  | unreachable (reason : String) :
      Comes s query slide (.error (.transport reason)) (s.misunderstood query reason)
  | nonsense (reason : String) :
      Comes s query slide (.error (.nonsense reason)) (s.misunderstood query reason)
  | unwilling {r : Response String} (h : r.isRateLimited ∨ r.isError) :
      Comes s query slide (.ok r) s.fallback
  | malformed {r : Response String} {reason : String} (h : ¬(r.isRateLimited ∨ r.isError))
      (hr : Json.Body.read r.body = .error (.malformed reason)) :
      Comes s query slide (.ok r) (s.misunderstood query reason)
  | vain {r : Response String} {page : Json} (h : ¬(r.isRateLimited ∨ r.isError))
      (hr : Json.Body.read r.body = .ok page) (hv : (results page).isVain) :
      Comes s query slide (.ok r) (.missed query "no results")
  | missed {r : Response String} {page v : Json} {items : List Json}
      (h : ¬(r.isRateLimited ∨ r.isError)) (hr : Json.Body.read r.body = .ok page)
      (hi : results page = .arr items) (hv : cycled items slide = some v) (hm : IsResult v)
      (ha : (address v).isVain) :
      Comes s query slide (.ok r) (.missed query "result has no image URL")
  | found {r : Response String} {page v : Json} {items : List Json} {u : String}
      (h : ¬(r.isRateLimited ∨ r.isError)) (hr : Json.Body.read r.body = .ok page)
      (hi : results page = .arr items) (hv : cycled items slide = some v) (hm : IsResult v)
      (ha : address v = .str u) (hu : u ≠ "") :
      Comes s query slide (.ok r) (.found ⟨u, false⟩)

theorem exists_cycled {α : Type} {items : List α} (h : items ≠ []) (i : Int) :
    ∃ a, cycled items i = some a := by
  have hpos : (0 : Int) < items.length := Int.natCast_pos.2 (List.length_pos_iff.2 h)
  have hlt : (i % items.length).toNat < items.length := by
    have := Int.emod_lt_of_pos i hpos
    omega
  exact ⟨_, List.getElem?_eq_getElem hlt⟩

theorem entry_eq_ok {v w : Json} {key : String} :
    entry v key = .ok w ↔ HasEntries v ∧ w = field key v := by
  unfold entry HasEntries
  split
  · next hv =>
    -- what is vain has no entries, an empty object among the rest
    have hnull : field key v = .null := by
      cases v with
      | obj es =>
        rw [Json.isVain, List.isEmpty_iff] at hv
        rw [field, hv]
        rfl
      | _ => rfl
    rw [hnull, Except.ok.injEq]
    simp only [hv, true_or, true_and, eq_comm]
  · next hv =>
    cases v with
    | obj es => simp [field, hv, eq_comm]
    | _ => simp [hv]

theorem ofResult_eq_ok {query : String} {v : Json} {a : Answer} :
    ofResult query v = .ok a ↔ IsResult v ∧
      ((address v).isVain ∧ a = .missed query "result has no image URL" ∨
        ∃ u, address v = .str u ∧ u ≠ "" ∧ a = .found ⟨u, false⟩) := by
  unfold ofResult
  simp only [bind_eq_ok, entry_eq_ok]
  constructor
  · rintro ⟨_, ⟨hv, rfl⟩, _, ⟨hw, rfl⟩, ha⟩
    change (if (address v).isVain then _ else _) = _ at ha
    split at ha
    · next hvain => exact ⟨⟨hv, hw, .inl hvain⟩, .inl ⟨hvain, (pure_eq_ok.1 ha).symm⟩⟩
    · next hvain =>
      cases hu : address v with
      | str u =>
        rw [show field "regular" (field "urls" v) = .str u from hu] at ha
        refine ⟨⟨hv, hw, .inr ⟨u, hu⟩⟩, .inr ⟨u, rfl, ?_, (pure_eq_ok.1 ha).symm⟩⟩
        rintro rfl
        exact hvain (by rw [hu]; rfl)
      | _ =>
        rw [show field "regular" (field "urls" v) = _ from hu] at ha
        cases ha
  · rintro ⟨hm, ha⟩
    refine ⟨_, ⟨hm.entries, rfl⟩, address v, ⟨hm.urls, rfl⟩, ?_⟩
    obtain ⟨hvain, rfl⟩ | ⟨u, hu, hne, rfl⟩ := ha
    · rw [if_pos hvain]
      rfl
    · have hvain : ¬(Json.str u).isVain := by simpa [Json.isVain] using hne
      rw [hu, if_neg hvain]
      rfl

theorem ofPage_eq_ok {query : String} {slide : Int} {page : Json} {a : Answer} :
    ofPage query slide page = .ok a ↔
      (results page).isVain ∧ a = .missed query "no results" ∨
        ∃ items v, results page = .arr items ∧ cycled items slide = some v ∧
          ofResult query v = .ok a := by
  unfold ofPage
  split
  · next hv =>
    rw [Except.ok.injEq]
    constructor
    · exact fun h => .inl ⟨hv, h.symm⟩
    · rintro (⟨-, rfl⟩ | ⟨items, v, hi, hc, -⟩)
      · rfl
      · -- an empty list has no item for the slide
        rw [hi, Json.isVain, List.isEmpty_iff] at hv
        rw [hv] at hc
        cases hc
  · next hv =>
    simp only [hv, false_and, false_or, bind_eq_ok, Bool.false_eq_true]
    cases hr : results page with
    | arr items =>
      rw [hr, Json.isVain, List.isEmpty_iff] at hv
      obtain ⟨v, hc⟩ := exists_cycled hv slide
      simp [choose, hc]
    | str text =>
      -- a letter has no entries
      rw [hr, Json.isVain, String.isEmpty_iff, ← String.toList_eq_nil_iff] at hv
      obtain ⟨c, hc⟩ := exists_cycled hv slide
      have hletter : ¬IsResult (.str (String.singleton c)) := by
        rintro ⟨h | ⟨es, h⟩, -, -⟩
        · simp [Json.isVain] at h
        · cases h
      simp [choose, hc, ofResult_eq_ok, hletter]
    | _ => simp [choose]

theorem ofReply_eq_ok {s : Search} {query : String} {slide : Int} {r : Reply String} {a : Answer} :
    s.ofReply query slide r = .ok a ↔ Comes s query slide r a := by
  constructor
  · intro h
    unfold ofReply at h
    split at h
    · cases h
      exact .unreachable _
    · cases h
      exact .nonsense _
    · cases h
    · next r =>
      split at h
      · next hs =>
        cases h
        exact .unwilling (Bool.or_eq_true_iff.1 hs)
      · next hs =>
        rw [Bool.or_eq_true_iff] at hs
        split at h
        · next hr =>
          cases h
          exact .malformed hs hr
        · cases h
        · next page hr =>
          obtain ⟨hv, rfl⟩ | ⟨items, v, hi, hv, ha⟩ := ofPage_eq_ok.1 h
          · exact .vain hs hr hv
          · obtain ⟨hm, ⟨hvain, rfl⟩ | ⟨u, hu, hne, rfl⟩⟩ := ofResult_eq_ok.1 ha
            · exact .missed hs hr hi hv hm hvain
            · exact .found hs hr hi hv hm hu hne
  · intro h
    cases h with
    | unreachable reason => rfl
    | nonsense reason => rfl
    | unwilling h => simp only [ofReply, Bool.or_eq_true, if_pos h]
    | malformed h hr => simp only [ofReply, Bool.or_eq_true, if_neg h, hr]
    | vain h hr hv =>
      simp only [ofReply, Bool.or_eq_true, if_neg h, hr]
      exact ofPage_eq_ok.2 (.inl ⟨hv, rfl⟩)
    | missed h hr hi hv hm ha =>
      simp only [ofReply, Bool.or_eq_true, if_neg h, hr]
      exact ofPage_eq_ok.2 (.inr ⟨_, _, hi, hv, ofResult_eq_ok.2 ⟨hm, .inl ⟨ha, rfl⟩⟩⟩)
    | found h hr hi hv hm ha hu =>
      simp only [ofReply, Bool.or_eq_true, if_neg h, hr]
      exact ofPage_eq_ok.2 (.inr ⟨_, _, hi, hv, ofResult_eq_ok.2 ⟨hm, .inr ⟨_, ha, hu, rfl⟩⟩⟩)

theorem exists_comes_iff (s : Search) (query : String) {slide : Int} {r : Reply String} :
    (∃ a, Comes s query slide r a) ↔ IsUsable slide r := by
  constructor
  · rintro ⟨a, h⟩
    cases h with
    | unreachable reason => trivial
    | nonsense reason => trivial
    | unwilling h => exact h.imp_right .inl
    | malformed h hr =>
      refine .inr (.inr ?_)
      rw [hr]
      trivial
    | vain h hr hv =>
      refine .inr (.inr ?_)
      rw [hr]
      exact .inl hv
    | missed h hr hi hv hm ha =>
      refine .inr (.inr ?_)
      rw [hr]
      exact .inr ⟨_, _, hi, hv, hm⟩
    | found h hr hi hv hm ha hu =>
      refine .inr (.inr ?_)
      rw [hr]
      exact .inr ⟨_, _, hi, hv, hm⟩
  · intro h
    match r with
    | .error (.transport reason) => exact ⟨_, .unreachable reason⟩
    | .error (.nonsense reason) => exact ⟨_, .nonsense reason⟩
    | .error (.system _) => exact h.elim
    | .ok r =>
      by_cases hs : r.isRateLimited ∨ r.isError
      · exact ⟨_, .unwilling hs⟩
      · have hbody := (or_assoc.2 h).resolve_left hs
        match hr : Json.Body.read r.body with
        | .error (.malformed reason) => exact ⟨_, .malformed hs hr⟩
        | .error .tooDeep =>
          rw [hr] at hbody
          exact hbody.elim
        | .ok page =>
          rw [hr] at hbody
          obtain hv | ⟨items, v, hi, hv, hm⟩ := hbody
          · exact ⟨_, .vain hs hr hv⟩
          · by_cases ha : (address v).isVain
            · exact ⟨_, .missed hs hr hi hv hm ha⟩
            · obtain ⟨u, hu⟩ := hm.address.resolve_left ha
              refine ⟨_, .found hs hr hi hv hm hu ?_⟩
              rintro rfl
              exact ha (by rw [hu]; rfl)

theorem Comes.found_or_missed {s : Search} {query : String} {slide : Int} {r : Reply String}
    {a : Answer} (h : Comes s query slide r a) :
    (∃ image, a = .found image) ∨ ∃ reason, a = .missed query reason := by
  have hmisunderstood (reason : String) : (∃ image, s.misunderstood query reason = .found image) ∨
      ∃ reason', s.misunderstood query reason = .missed query reason' := by
    unfold misunderstood
    split
    · exact .inr ⟨_, rfl⟩
    · exact .inl ⟨_, rfl⟩
  cases h with
  | unreachable reason => exact hmisunderstood reason
  | nonsense reason => exact hmisunderstood reason
  | unwilling h => exact .inl ⟨_, rfl⟩
  | malformed h hr => exact hmisunderstood _
  | vain h hr hv => exact .inr ⟨_, rfl⟩
  | missed h hr hi hv hm ha => exact .inr ⟨_, rfl⟩
  | found h hr hi hv hm ha hu => exact .inl ⟨_, rfl⟩

/-- A search asks the service once, and returns if and only if the reply is usable; then it answers
what the reply comes to, which is an image or a reason why there is none. -/
theorem resolver_returns_iff {σ : Type} (s : Search) (service : Call → StateM σ (Reply String))
    (r : Request) (t : σ) :
    let query := searchQuery r.query r.text
    let asked := service (s.call query) t
    let out := (s.resolver service r).outcome t
    out.2 = asked.2 ∧
      ((∃ a, out.1 = .ok a) ↔ IsUsable r.slide asked.1) ∧
      (∀ a, out.1 = .ok a ↔ Comes s query r.slide asked.1 a) ∧
      ∀ a, out.1 = .ok a → (∃ image, a = .found image) ∨ ∃ reason, a = .missed query reason := by
  intro query asked out
  have hout : out = (s.ofReply query r.slide asked.1, asked.2) := rfl
  have hcomes (a : Answer) : out.1 = .ok a ↔ Comes s query r.slide asked.1 a := by
    rw [hout]
    exact ofReply_eq_ok
  refine ⟨rfl, ?_, hcomes, fun a ha => ((hcomes a).1 ha).found_or_missed⟩
  rw [← exists_comes_iff s query]
  exact exists_congr hcomes

def giving (body : String) : Call → StateM Unit (Reply String) := fun _ t => (.ok ⟨200, body⟩, t)

theorem resolver_returns_secondResult :
    let body := "\x7b\"results\": [7, \x7b\"urls\": \x7b\"regular\": \"https://a/b\"\x7d\x7d]\x7d"
    let s : Search := { accessKey := "k", strict := true }
    let out := (s.resolver (giving body) ⟨"lake", 3, ""⟩).outcome ()
    out.1 = .ok (.found ⟨"https://a/b", false⟩) ∧ IsUsable 3 (.ok ⟨200, body⟩) := by
  intro body s out
  have hout : out.1 = .ok (.found ⟨"https://a/b", false⟩) := by decide +kernel
  obtain ⟨-, husable, -, -⟩ := resolver_returns_iff s (giving body) ⟨"lake", 3, ""⟩ ()
  exact ⟨hout, husable.1 ⟨_, hout⟩⟩

/-- A search whose page has a number for a result, though the service could be reached. -/
theorem resolver_breaks_off :
    ¬∀ (τ : Type) (s : Search) (service : Call → StateM τ (Reply String)) (r : Request) (t : τ),
        (∀ reason, (service (s.call (searchQuery r.query r.text)) t).1 ≠ .error (.system reason)) →
          ∃ a, ((s.resolver service r).outcome t).1 = .ok a := by
  intro h
  have hnumber : ((({ accessKey := "k" } : Search).resolver (giving "\x7b\"results\": [7]\x7d")
      ⟨"lake", 0, ""⟩).outcome ()).1 = .error .noEntries := by
    decide +kernel
  obtain ⟨a, ha⟩ := h Unit { accessKey := "k" } (giving "\x7b\"results\": [7]\x7d")
    ⟨"lake", 0, ""⟩ () (fun reason => nofun)
  cases hnumber.symm.trans ha

end DeckPress.Image.Search
