import DeckPress.Proofs.SearchAnswers
import DeckPress.Proofs.StrictMode
import DeckPress.Proofs.TakenAddresses
import Mathlib.Data.Nat.ModEq

/-!
# Where pictures come from

A picture of a drawing shows the address that its query is, a photo that a search of its own has
found, or the image that stands in for those not found. Which of these it is can be told for every
wish from the reply to the search for it, and from whether there was one.
-/
namespace DeckPress

open Attempt Image

theorem Response.isError_of_isRateLimited {β : Type} {r : Response β} (h : r.isRateLimited = true) :
    r.isError = true := by
  have hstatus : r.status = 429 := by simpa [isRateLimited] using h
  simp [isError, hstatus]

/-- A response that is no error and whose page has these results. -/
def GivesResults (reply : Reply String) (items : List Json) : Prop :=
  ∃ r page, reply = .ok r ∧ r.isError = false ∧ Json.Body.read r.body = .ok page ∧
    Search.results page = .arr items

/-- A picture of a drawing: the wish for it, its image, and the reply to the search for it, if there
was one. -/
structure Sighting where
  wish : Wish
  image : Image.Reference
  reply? : Option (Reply String)

/-- What the address of a picture is. -/
inductive Origin
  | query
  | photo
  | fallback
deriving Repr, DecidableEq

namespace Sighting

def shown (x : Sighting) : Int × Image.Reference := (x.wish.slide, x.image)

/-- The photo of the result for the slide, counted round the results of its search. -/
structure IsPhotoOf (x : Sighting) (items : List Json) : Prop where
  replied : ∃ reply, x.reply? = some reply ∧ GivesResults reply items
  chosen : ∃ v, items[x.wish.slide % items.length]? = some v ∧
    Search.address v = .str x.image.url
  nonempty : x.image.url ≠ ""
  original : x.image.isFallback = false

def ComesFrom (fallbackUrl : String) (x : Sighting) : Origin → Prop
  | .query => x.reply? = none ∧ x.wish.IsDirect ∧ x.image = ⟨Text.trimmed x.wish.query, false⟩
  | .photo => ∃ items, x.IsPhotoOf items
  | .fallback => x.image = ⟨fallbackUrl, true⟩

/-- No picture has two origins: only a photo was searched for, and only the fallback image says that
it stands in for another. -/
theorem ComesFrom.unique {fallbackUrl : String} {x : Sighting} {o o' : Origin}
    (h : x.ComesFrom fallbackUrl o) (h' : x.ComesFrom fallbackUrl o') : o = o' := by
  have hphoto : x.ComesFrom fallbackUrl .photo → x.reply? ≠ none ∧ x.image.isFallback = false := by
    rintro ⟨items, ⟨reply, hreply, -⟩, -, -, horiginal⟩
    exact ⟨by rw [hreply]; exact nofun, horiginal⟩
  have hquery : x.ComesFrom fallbackUrl .query → x.reply? = none ∧ x.image.isFallback = false := by
    rintro ⟨hreply, -, himage⟩
    exact ⟨hreply, by rw [himage]⟩
  have hfallback : x.ComesFrom fallbackUrl .fallback → x.image.isFallback = true := by
    intro himage
    rw [show x.image = _ from himage]
  cases o with
  | query =>
    cases o' with
    | query => rfl
    | photo => exact absurd (hquery h).1 (hphoto h').1
    | fallback => exact absurd ((hquery h).2.symm.trans (hfallback h')) Bool.false_ne_true
  | photo =>
    cases o' with
    | query => exact absurd (hquery h').1 (hphoto h).1
    | photo => rfl
    | fallback => exact absurd ((hphoto h).2.symm.trans (hfallback h')) Bool.false_ne_true
  | fallback =>
    cases o' with
    | query => exact absurd ((hquery h').2.symm.trans (hfallback h)) Bool.false_ne_true
    | photo => exact absurd ((hphoto h').2.symm.trans (hfallback h)) Bool.false_ne_true
    | fallback => rfl

/-- Round results with addresses of their own, the same photo stands at the same place. -/
theorem IsPhotoOf.url_eq_iff {x y : Sighting} {items : List Json} (hx : x.IsPhotoOf items)
    (hy : y.IsPhotoOf items) (hd : (items.map Search.address).Nodup) :
    x.image.url = y.image.url ↔ x.wish.slide ≡ y.wish.slide [MOD items.length] := by
  obtain ⟨v, hv, hurl⟩ := hx.chosen
  obtain ⟨v', hv', hurl'⟩ := hy.chosen
  have hx' : (items.map Search.address)[x.wish.slide % items.length]? = some (.str x.image.url) := by
    rw [List.getElem?_map, hv, Option.map_some, hurl]
  have hy' : (items.map Search.address)[y.wish.slide % items.length]? = some (.str y.image.url) := by
    rw [List.getElem?_map, hv', Option.map_some, hurl']
  constructor
  · intro h
    have hlt := (List.getElem?_eq_some_iff.1 hx').1
    refine (List.getElem?_inj hlt hd).1 ?_
    rw [hx', hy', h]
  · intro h
    rw [Nat.ModEq] at h
    rw [h, hy'] at hx'
    exact (Json.str.inj (Option.some.inj hx')).symm

end Sighting

namespace Settings

/-- What a wish may come to under settings: what is not an address is searched for if there is a
key, and in strict mode nothing but an error of the service gives the fallback image. -/
inductive Sees (s : Settings) : Sighting → Prop
  | taken {w : Wish} (h : w.IsDirect) : Sees s ⟨w, ⟨Text.trimmed w.query, false⟩, none⟩
  | unasked {w : Wish} (h : ¬w.IsDirect) (hkey : s.searchKey = "") (hs : s.isStrict = false) :
      Sees s ⟨w, ⟨s.fallbackUrl, true⟩, none⟩
  | found {w : Wish} {url : String} {reply : Reply String} {items : List Json} (h : ¬w.IsDirect)
      (hkey : s.searchKey ≠ "")
      (hphoto : (⟨w, ⟨url, false⟩, some reply⟩ : Sighting).IsPhotoOf items) :
      Sees s ⟨w, ⟨url, false⟩, some reply⟩
  | unwilling {w : Wish} {reply : Reply String} (h : ¬w.IsDirect) (hkey : s.searchKey ≠ "")
      (hs : s.isStrict = true → ∃ r, reply = .ok r ∧ r.isError = true) :
      Sees s ⟨w, ⟨s.fallbackUrl, true⟩, some reply⟩

end Settings

namespace Compiler

theorem unresolved_eq_ok {α σ : Type} {c : Compiler α σ} {slide : Nat} {n : Need} {reason : String}
    {image : Image.Reference} :
    c.unresolved slide n reason = .ok image ↔ c.strict = false ∧ image = ⟨c.fallbackUrl, true⟩ := by
  cases hs : c.strict <;> simp [unresolved, hs, eq_comm]

end Compiler

namespace Settings

section Step

variable {s : Settings} {w : Wish} {image : Image.Reference}

theorem cycled_natCast (items : List Json) (n : Nat) :
    Search.cycled items (n : Int) = items[n % items.length]? := by
  rw [Search.cycled, ← Int.natCast_emod, Int.toNat_natCast]

theorem sees_of_conclude {reply : Reply String} (hw : ¬w.IsDirect) (hkey : s.searchKey ≠ "")
    (h : (s.compiler Rehearsal.askSearch : Compiler Float Rehearsal).conclude w
      (s.search.answerTo w.request reply) = .ok image) :
    s.Sees ⟨w, image, some reply⟩ := by
  have hlenient {reason : String}
      (hm : (s.compiler Rehearsal.askSearch : Compiler Float Rehearsal).unresolved w.slide w.need
        reason = .ok image) : s.Sees ⟨w, image, some reply⟩ := by
    obtain ⟨hlax, rfl⟩ := Compiler.unresolved_eq_ok.1 hm
    exact .unwilling hw hkey fun hs => absurd (hlax.symm.trans hs) Bool.false_ne_true
  have hmisunderstood {query reason : String}
      (hm : (s.compiler Rehearsal.askSearch : Compiler Float Rehearsal).ofAnswer w.slide w.need
        (s.search.misunderstood query reason) = .ok image) : s.Sees ⟨w, image, some reply⟩ := by
    unfold Search.misunderstood at hm
    split at hm
    · exact hlenient hm
    · next hs =>
      cases hm
      exact .unwilling hw hkey fun hs' => absurd hs' hs
  cases ha : s.search.answerTo w.request reply with
  | error f =>
    rw [ha] at h
    cases h
  | ok a =>
    rw [ha] at h
    have hcomes := Search.ofReply_eq_ok.1 ha
    cases hcomes with
    | unreachable reason => exact hmisunderstood h
    | nonsense reason => exact hmisunderstood h
    | malformed _ _ => exact hmisunderstood h
    | vain _ _ _ => exact hlenient h
    | missed _ _ _ _ _ _ => exact hlenient h
    | @unwilling r hr =>
      cases h
      have herror : r.isError = true := hr.elim Response.isError_of_isRateLimited id
      exact .unwilling hw hkey fun _ => ⟨r, rfl, herror⟩
    | @found r page v items url hr hread hi hv _ hurl hu =>
      cases h
      have hfine : r.isError = false := Bool.eq_false_iff.2 fun he => hr (.inr he)
      have hown : items[w.slide % items.length]? = some v := by
        rw [← cycled_natCast]
        exact hv
      exact .found hw hkey ⟨⟨_, rfl, r, page, rfl, hfine, hread, hi⟩, ⟨v, hown, hurl⟩, hu, rfl⟩

theorem sees_of_lookUp {u u' : Rehearsal}
    (h : ((s.compiler Rehearsal.askSearch : Compiler Float Rehearsal).lookUp w).outcome u =
      (.ok image, u')) :
    s.Sees ⟨w, image, none⟩ ∧ u' = u ∨
      ∃ reply, s.Sees ⟨w, image, some reply⟩ ∧
        reply = u.search.pending[0]?.getD Rehearsal.exhausted ∧
        u' = { u with search :=
          ⟨u.search.pending.drop 1, u.search.asked ++ [s.search.callFor w.request]⟩ } := by
  by_cases hw : w.IsDirect
  · rw [Compiler.lookUp_of_direct _ hw] at h
    cases h
    exact .inl ⟨.taken hw, rfl⟩
  · by_cases hkey : s.searchKey = ""
    · have hnone : (s.compiler Rehearsal.askSearch : Compiler Float Rehearsal).resolver = none :=
        if_pos (String.isEmpty_iff.2 hkey)
      rw [Compiler.lookUp_of_none hw hnone, outcome_ofExcept] at h
      obtain ⟨himage, rfl⟩ := Prod.mk.inj h
      obtain ⟨hlax, rfl⟩ := Compiler.unresolved_eq_ok.1 himage
      exact .inl ⟨.unasked hw hkey hlax, rfl⟩
    · have hsome : (s.compiler Rehearsal.askSearch : Compiler Float Rehearsal).resolver =
          some (s.search.resolver Rehearsal.askSearch) :=
        if_neg (mt String.isEmpty_iff.1 hkey)
      rw [Compiler.outcome_lookUp hw hsome (Search.outcome_resolver_askSearch ..)] at h
      obtain ⟨himage, rfl⟩ := Prod.mk.inj h
      exact .inr ⟨_, sees_of_conclude hw hkey himage, rfl, rfl⟩

end Step

end Settings

namespace Sighting

def replies (xs : List Sighting) : List (Reply String) := xs.filterMap Sighting.reply?

def calls (s : Search) (xs : List Sighting) : List Search.Call :=
  (xs.filter fun x => x.reply?.isSome).map fun x => s.callFor x.wish.request

/-- The script gives its replies in turn to the searches and keeps their calls. -/
structure Consumes (s : Search) (u : Rehearsal) (xs : List Sighting) (u' : Rehearsal) : Prop where
  replied : ∀ (k : Nat) reply, (replies xs)[k]? = some reply →
    reply = u.search.pending[k]?.getD Rehearsal.exhausted
  left : u' = { u with search :=
    ⟨u.search.pending.drop (replies xs).length, u.search.asked ++ calls s xs⟩ }

variable {s : Search} {u v u' : Rehearsal} {xs : List Sighting}

theorem Consumes.nil (s : Search) (u : Rehearsal) : Consumes s u [] u := by
  constructor
  · exact nofun
  · simp [replies, calls]

theorem Consumes.cons_of_none {x : Sighting} (hx : x.reply? = none) (h : Consumes s u xs u') :
    Consumes s u (x :: xs) u' := by
  have hreplies : replies (x :: xs) = replies xs := List.filterMap_cons_none hx
  have hcalls : calls s (x :: xs) = calls s xs := by
    rw [calls, List.filter_cons_of_neg (by rw [hx]; exact nofun)]
    rfl
  constructor
  · rw [hreplies]
    exact h.replied
  · rw [hreplies, hcalls]
    exact h.left

theorem Consumes.cons_of_some {x : Sighting} {reply : Reply String} (hx : x.reply? = some reply)
    (hreply : reply = u.search.pending[0]?.getD Rehearsal.exhausted)
    (hv : v = { u with search :=
      ⟨u.search.pending.drop 1, u.search.asked ++ [s.callFor x.wish.request]⟩ })
    (h : Consumes s v xs u') : Consumes s u (x :: xs) u' := by
  have hreplies : replies (x :: xs) = reply :: replies xs := List.filterMap_cons_some hx
  have hcalls : calls s (x :: xs) = s.callFor x.wish.request :: calls s xs := by
    rw [calls, List.filter_cons_of_pos (by rw [hx]; rfl)]
    rfl
  subst hv
  constructor
  · intro k r hr
    rw [hreplies] at hr
    cases k with
    | zero =>
      cases hr
      exact hreply
    | succ k =>
      have htail := h.replied k r hr
      rwa [List.getElem?_drop, Nat.add_comm] at htail
  · rw [h.left, hreplies, hcalls]
    simp [Nat.add_comm]

end Sighting

namespace Settings

variable {s : Settings}

theorem sees_of_traverses {ws : List Wish} {images : List Image.Reference} {u u' : Rehearsal}
    (h : Traverses (s.compiler Rehearsal.askSearch : Compiler Float Rehearsal).lookUp ws u images
      u') :
    ∃ xs : List Sighting, xs.map Sighting.wish = ws ∧ xs.map Sighting.image = images ∧
      (∀ x ∈ xs, s.Sees x) ∧ Sighting.Consumes s.search u xs u' := by
  induction h with
  | nil u => exact ⟨[], rfl, rfl, List.forall_mem_nil _, .nil s.search u⟩
  | @cons w ws image images u v u' head tail ih =>
    obtain ⟨xs, rfl, rfl, hsees, hconsumes⟩ := ih
    obtain ⟨hx, rfl⟩ | ⟨reply, hx, hreply, hv⟩ := sees_of_lookUp head
    · exact ⟨⟨w, image, none⟩ :: xs, rfl, rfl, List.forall_mem_cons.2 ⟨hx, hsees⟩,
        hconsumes.cons_of_none rfl⟩
    · exact ⟨⟨w, image, some reply⟩ :: xs, rfl, rfl, List.forall_mem_cons.2 ⟨hx, hsees⟩,
        hconsumes.cons_of_some rfl hreply hv⟩

namespace Sees

variable {x : Sighting}

theorem exists_origin (h : s.Sees x) : ∃ o, x.ComesFrom s.fallbackUrl o := by
  cases h with
  | taken h => exact ⟨.query, rfl, h, rfl⟩
  | unasked _ _ _ => exact ⟨.fallback, rfl⟩
  | found _ _ hphoto => exact ⟨.photo, _, hphoto⟩
  | unwilling _ _ _ => exact ⟨.fallback, rfl⟩

theorem reply_of_no_key (h : s.Sees x) (hkey : s.searchKey = "") : x.reply? = none := by
  cases h with
  | taken _ => rfl
  | unasked _ _ _ => rfl
  | found _ hkey' _ => exact absurd hkey hkey'
  | unwilling _ hkey' _ => exact absurd hkey hkey'

theorem isError_of_strict (h : s.Sees x) (hs : s.isStrict = true)
    (hx : x.ComesFrom s.fallbackUrl .fallback) : ∃ r, x.reply? = some (.ok r) ∧ r.isError = true := by
  cases h with
  | taken _ => exact absurd (congrArg Image.Reference.isFallback hx) Bool.false_ne_true
  | unasked _ _ hlax => exact absurd (hlax.symm.trans hs) Bool.false_ne_true
  | found _ _ _ => exact absurd (congrArg Image.Reference.isFallback hx) Bool.false_ne_true
  | unwilling _ _ herror =>
    obtain ⟨r, rfl, hr⟩ := herror hs
    exact ⟨r, rfl, hr⟩

end Sees

/-- Each picture of a drawing comes from exactly one of its query, the photo that its own search has
found, and the fallback image. Searches get the replies of the script in turn. Without a key none is
made, and in strict mode only an error of the service gives the fallback image. Pictures with photos
from the same results show the same one where the positions of their slides agree round these. -/
theorem pictures_have_one_origin (s : Settings) (d : Deck Float) (u u' : Rehearsal)
    (g : Drawing Float)
    (h : ((s.compiler Rehearsal.askSearch : Compiler Float Rehearsal).compile d).outcome u =
      (.ok g, u')) :
    ∃ xs : List Sighting, xs.map Sighting.wish = d.wishes ∧ g.shown = xs.map Sighting.shown ∧
      Sighting.Consumes s.search u xs u' ∧
      (∀ x ∈ xs, ∃! o, x.ComesFrom s.fallbackUrl o) ∧
      (s.searchKey = "" → u' = u ∧
        ∀ x ∈ xs, x.reply? = none ∧ ¬x.ComesFrom s.fallbackUrl .photo) ∧
      (s.isStrict = true → ∀ x ∈ xs, x.ComesFrom s.fallbackUrl .fallback →
        ∃ r, x.reply? = some (.ok r) ∧ r.isError = true) ∧
      ∀ x ∈ xs, ∀ y ∈ xs, ∀ items : List Json, x.IsPhotoOf items → y.IsPhotoOf items →
        (items.map Search.address).Nodup →
          (x.image.url = y.image.url ↔ x.wish.slide ≡ y.wish.slide [MOD items.length]) := by
  obtain ⟨images, himages, hshown⟩ := Compiler.compile_shows h
  obtain ⟨xs, hwishes, rfl, hsees, hconsumes⟩ := sees_of_traverses himages
  refine ⟨xs, hwishes, ?_, hconsumes, fun x hx => ?_, fun hkey => ?_, fun hs x hx => ?_, ?_⟩
  · rw [hshown, ← hwishes, List.zipWith_map, List.zipWith_self]
    rfl
  · obtain ⟨o, ho⟩ := (hsees x hx).exists_origin
    exact ⟨o, ho, fun o' ho' => ho'.unique ho⟩
  · have hnone : ∀ x ∈ xs, x.reply? = none := fun x hx => (hsees x hx).reply_of_no_key hkey
    refine ⟨?_, fun x hx => ⟨hnone x hx, ?_⟩⟩
    · have hreplies : Sighting.replies xs = [] := List.filterMap_eq_nil_iff.2 hnone
      have hcalls : Sighting.calls s.search xs = [] := by
        rw [Sighting.calls, List.map_eq_nil_iff, List.filter_eq_nil_iff]
        intro x hx
        rw [hnone x hx]
        exact nofun
      rw [hconsumes.left, hreplies, hcalls]
      simp
    · rintro ⟨items, ⟨reply, hreply, -⟩, -, -, -⟩
      exact nomatch (hnone x hx).symm.trans hreply
  · exact (hsees x hx).isError_of_strict hs
  · exact fun x _ y _ items hx hy hd => hx.url_eq_iff hy hd

def lakes : Reply String :=
  .ok ⟨200, "\x7b\"results\": [\x7b\"urls\": \x7b\"regular\": \"https://l/0\"\x7d\x7d, " ++
    "\x7b\"urls\": \x7b\"regular\": \"https://l/1\"\x7d\x7d]\x7d"⟩

/-- A service that is unwilling between two pages. -/
def lakesTwice : Rehearsal where
  model := ⟨[], []⟩
  search := ⟨[lakes, .ok ⟨503, ""⟩, lakes], []⟩

def fourSlides : Json :=
  .arr [.obj [("title", .str "Link"), ("imageQuery", .str " HTTPS://c/d ")],
    .obj [("title", .str "One"), ("imageQuery", .str "lake")],
    .obj [("title", .str "Two"), ("imageQuery", .str "hill")],
    .obj [("title", .str "Three"), ("imageQuery", .str "lake")]]

def fourImages : List (Int × Image.Reference) :=
  [(0, ⟨"HTTPS://c/d", false⟩), (1, ⟨"https://l/1", false⟩), (2, ⟨Image.defaultFallback, true⟩),
    (3, ⟨"https://l/1", false⟩)]

theorem pictures_have_one_origin_fourSlides :
    ∃ s d g u', load (modeEnvironment " Strict") = .ok s ∧ Deck.parse fourSlides = .ok d ∧
      ((s.compiler Rehearsal.askSearch).compile d).outcome lakesTwice = (.ok g, u') ∧
      ∃ xs : List Sighting, fourImages = xs.map Sighting.shown ∧
        Sighting.Consumes s.search lakesTwice xs u' ∧
        ∀ x ∈ xs, ∃! o, x.ComesFrom s.fallbackUrl o := by
  have hrun : ((load (modeEnvironment " Strict")).toOption.any fun s =>
      (Deck.parse fourSlides).toOption.any fun d =>
        (((s.compiler Rehearsal.askSearch).compile d).outcome lakesTwice).1.toOption.any fun g =>
          decide (g.shown = fourImages)) = true := by
    decide +kernel
  obtain ⟨s, hs, hrun⟩ := exists_eq_ok_of_any hrun
  obtain ⟨d, hd, hrun⟩ := exists_eq_ok_of_any hrun
  obtain ⟨g, hg, hshown⟩ := exists_eq_ok_of_any hrun
  obtain ⟨xs, -, hxs, hconsumes, horigin, -⟩ :=
    pictures_have_one_origin s d lakesTwice _ g (Prod.ext hg rfl)
  exact ⟨s, d, g, _, hs, hd, Prod.ext hg rfl, xs, (of_decide_eq_true hshown).symm.trans hxs,
    hconsumes, horigin⟩

end Settings

end DeckPress
