import DeckPress.Image
import DeckPress.Proofs.Words

/-!
# Search queries

A query for a search says the words of the query that was asked, and after them the first five
longer words of the slide. It is trimmed, so nothing but the words counts: a slide without longer
words leaves the query as it is, and whatever a slide says after the fifth is not searched for.
-/
namespace DeckPress.Image

open Text

variable {text rest : String}

/-- The words of a text that are long enough to be searched for. -/
def longWords (text : String) : List (List Char) :=
  (words text.toList).filter fun w => 4 ≤ w.length

theorem keywords_eq_take (text : String) : keywords text = (longWords text).take 5 := rfl

theorem isWord_of_mem_keywords {w : List Char} (h : w ∈ keywords text) : IsWord w :=
  isWord_of_mem_words (List.mem_of_mem_filter (List.mem_of_mem_take h))

theorem longWords_eq_nil (h : ∀ w ∈ words text.toList, w.length < 4) : longWords text = [] := by
  refine List.filter_eq_nil_iff.2 fun w hw => ?_
  simpa using h w hw

theorem longWords_append (hrest : ∀ c ∈ rest.toList.head?, isBlank c = true) (text : String) :
    longWords (text ++ rest) = longWords text ++ longWords rest := by
  rw [longWords, String.toList_append, words_append hrest, List.filter_append]
  rfl

/-- Five long words are all that a query takes from a text. -/
theorem keywords_append (hrest : ∀ c ∈ rest.toList.head?, isBlank c = true)
    (hfive : 5 ≤ (longWords text).length) : keywords (text ++ rest) = keywords text := by
  rw [keywords_eq_take, longWords_append hrest, List.take_append_of_le_length hfive,
    keywords_eq_take]

theorem toList_searchQuery (query text : String) :
    (searchQuery query text).toList = trim (query.toList ++ ' ' :: unwords (keywords text)) :=
  String.toList_ofList

theorem words_searchQuery (query text : String) :
    words (searchQuery query text).toList = words query.toList ++ keywords text := by
  rw [toList_searchQuery, words_trim, words_append_cons (by decide),
    words_unwords fun _ => isWord_of_mem_keywords]

theorem searchQuery_eq_trimmed (query : String) (h : keywords text = []) :
    searchQuery query text = trimmed query := by
  have hspace : ∀ c ∈ [' '], isBlank c = true := List.forall_mem_singleton.2 (by decide)
  rw [searchQuery, h, trimmed]
  exact congrArg String.ofList (trim_append_of_blank hspace query.toList)

/-- What is searched for: the words of the query and five long words of the text at most, with
nothing blank around them. -/
theorem searchQuery_takes_five_long_words (query text : String) :
    words (searchQuery query text).toList = words query.toList ++ (longWords text).take 5 ∧
      IsTrimmed (searchQuery query text).toList ∧
      ((∀ w ∈ words text.toList, w.length < 4) → searchQuery query text = trimmed query) ∧
      ∀ rest : String, 5 ≤ (longWords text).length →
        (∀ c ∈ rest.toList.head?, isBlank c = true) →
        searchQuery query (text ++ rest) = searchQuery query text := by
  refine ⟨words_searchQuery query text, ?_, fun hshort => ?_, fun rest hfive hrest => ?_⟩
  · rw [toList_searchQuery]
    exact isTrimmed_trim _
  · exact searchQuery_eq_trimmed query (by rw [keywords_eq_take, longWords_eq_nil hshort]; rfl)
  · rw [searchQuery, keywords_append hrest hfive, searchQuery]

theorem searchQuery_takes_five_long_words_lake :
    searchQuery "\tthe lake " "Deep blue water under a grey\u2003skyline at noon" =
        searchQuery "\tthe lake " "Deep blue water under a grey" ∧
      searchQuery "\tthe lake " "at 9 am" = "the lake" := by
  obtain ⟨-, -, -, hrest⟩ :=
    searchQuery_takes_five_long_words "\tthe lake " "Deep blue water under a grey"
  obtain ⟨-, -, hshort, -⟩ := searchQuery_takes_five_long_words "\tthe lake " "at 9 am"
  have hblank : ∀ c ∈ "\u2003skyline at noon".toList.head?, isBlank c = true := by
    rintro _ ⟨⟩
    decide
  exact ⟨hrest "\u2003skyline at noon" (by decide) hblank, hshort (by decide)⟩

end DeckPress.Image
