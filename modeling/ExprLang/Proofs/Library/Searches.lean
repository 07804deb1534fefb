import ExprLang.Proofs.Library.Calls
import ExprLang.Proofs.Library.SearchWindows

set_option autoImplicit false

/-!
Calls of the search functions. Where its numbers lie in the string, a search finds the first or the last
place of the pattern in its window, and the tests for a pattern agree with what is found in the whole
string. Where they do not lie in it, the search fails, but for one that goes through the empty string
from the back.
-/

namespace ExprLang

open Library Library.Strings Library.Strings.Search

namespace Library.Strings

/-- The search functions of the package. -/
def searches : List Search :=
  [⟨"find", false, false⟩, ⟨"find_i", false, true⟩, ⟨"find_last", true, false⟩,
    ⟨"find_last_i", true, true⟩]

theorem functions_subset {f : Search} (known : f ∈ searches) :
    f.functions ⊆ strings.functions := by
  intro r mem
  simp only [searches, List.mem_cons, List.not_mem_nil, or_false] at known
  simp only [strings, List.mem_append]
  rcases known with rfl | rfl | rfl | rfl
  · exact .inl (.inl (.inl (.inl (.inr mem))))
  · exact .inl (.inl (.inl (.inr mem)))
  · exact .inl (.inl (.inr mem))
  · exact .inl (.inr mem)

theorem contains_mem :
    ("contains", .ofBinary fun (s t : String) => occursIn t.toList s.toList)
      ∈ strings.functions := by
  apply List.mem_append_right
  exact List.mem_cons_self

theorem startsWith_mem :
    ("starts_with", .ofBinary fun (s t : String) => t.toList.isPrefixOf s.toList)
      ∈ strings.functions := by
  apply List.mem_append_right
  exact List.mem_cons_of_mem _ List.mem_cons_self

end Library.Strings

namespace Expr

variable {c : Context} {m : Memory} {args : List Value} {f : Search} {x y : Expr} {s t : String}
  {es : List Expr} {start? count? : Option (Integer .int32)}

/-- The numbers that a search is told: none, a start, or a start and a count. -/
inductive Told (c : Context) (m : Memory) (args : List Value) :
    List Expr → Option (Integer .int32) → Option (Integer .int32) → Prop
  | nothing : Told c m args [] none none
  | start {e : Expr} {a : Integer .int32} (first : e.Denotes c m args a) :
      Told c m args [e] (some a) none
  | window {e e' : Expr} {a b : Integer .int32} (first : e.Denotes c m args a)
      (second : e'.Denotes c m args b) : Told c m args [e, e'] (some a) (some b)

/-- A call of a search function runs the search, with what it is told. -/
theorem eval_search (shows : c.Shows strings.functions) (known : f ∈ searches)
    (left : x.Denotes c m args s) (right : y.Denotes c m args t)
    (told : Told c m args es start? count?) :
    (call f.name (x :: y :: es)).eval c m args
      = (f.run s t start? count?).map Embedded.toValue := by
  have shown := shows.of_subset (functions_subset known)
  cases told with
  | nothing =>
    have means := shown _ List.mem_cons_self
    exact (eval_call means (.cons left (.cons right .nil))).2
  | start first =>
    have means := shown _ (List.mem_cons_of_mem _ List.mem_cons_self)
    exact (eval_call means (.cons left (.cons right (.cons first .nil)))).2
  | window first second =>
    have means := shown _ (List.mem_cons_of_mem _ (List.mem_cons_of_mem _ List.mem_cons_self))
    exact (eval_call means (.cons left (.cons right (.cons first (.cons second .nil))))).2

theorem eval_contains (shows : c.Shows strings.functions) (left : x.Denotes c m args s)
    (right : y.Denotes c m args t) : (call "contains" [x, y]).eval c m args
      = .ok (.bool (occursIn t.toList s.toList)) :=
  (eval_call (shows _ contains_mem) (.cons left (.cons right .nil))).2

theorem eval_startsWith (shows : c.Shows strings.functions) (left : x.Denotes c m args s)
    (right : y.Denotes c m args t) : (call "starts_with" [x, y]).eval c m args
      = .ok (.bool (t.toList.isPrefixOf s.toList)) :=
  (eval_call (shows _ startsWith_mem) (.cons left (.cons right .nil))).2

/-! Numbers that lie in the string -/

/-- What becomes of a string `s` that is searched, or tested, for a pattern `t`. -/
structure SearchesString (c : Context) (m : Memory) (args : List Value) (x y : Expr)
    (s t : String) : Prop where
  finds : ∀ f ∈ searches, ∀ es start? count?, Told c m args es start? count? →
    f.Admits s.length (start?.map (·.val)) (count?.map (·.val)) → ∃ n : Integer .int32,
      (call f.name (x :: y :: es)).eval c m args = .ok (.int32 n)
        ∧ f.Finds s t (start?.map (·.val)) (count?.map (·.val)) n
  /-- The tests agree with what is found in the whole string. -/
  tests : ∃ (contained starts : Bool) (first last : Integer .int32),
    (call "contains" [x, y]).eval c m args = .ok (.bool contained)
      ∧ (call "starts_with" [x, y]).eval c m args = .ok (.bool starts)
      ∧ (call "find" [x, y]).eval c m args = .ok (.int32 first)
      ∧ (call "find_last" [x, y]).eval c m args = .ok (.int32 last)
      ∧ (contained = true ↔ first ≠ .minusOne) ∧ (contained = true ↔ last ≠ .minusOne)
      ∧ (starts = true → first = .zero .int32)

/-- If letter case counts, a search without numbers finds the pattern when the string has it. -/
theorem eval_search_whole (shows : c.Shows strings.functions) (known : f ∈ searches)
    (cased : f.ignoreCase = false) (left : x.Denotes c m args s) (right : y.Denotes c m args t)
    (short : s.length ≤ 2147483647) : ∃ n : Integer .int32, f.run s t none none = .ok n
      ∧ (call f.name [x, y]).eval c m args = .ok (.int32 n)
      ∧ (occursIn t.toList s.toList = true ↔ n ≠ .minusOne) := by
  obtain ⟨n, found, found_iff⟩ := run_whole (t := t) short cased
  have value := eval_search shows known left right .nothing
  rw [found] at value
  exact ⟨n, found, value, found_iff⟩

/-- With numbers that lie in the string each search finds the first or the last place of the pattern in
its window, or none if there is none. -/
theorem searchesString_of_shows (shows : c.Shows strings.functions) (left : x.Denotes c m args s)
    (right : y.Denotes c m args t) (short : s.length ≤ 2147483647) :
    SearchesString c m args x y s t := by
  constructor
  case finds =>
    intro f known es start? count? told admits
    obtain ⟨n, found, finds⟩ := run_finds (t := t) short admits
    refine ⟨n, ?_, finds⟩
    rw [eval_search shows known left right told, found]
    rfl
  case tests =>
    obtain ⟨first, found, value, found_iff⟩ := eval_search_whole (f := ⟨"find", false, false⟩)
      shows (by simp [searches]) rfl left right short
    obtain ⟨last, -, value', found_iff'⟩ := eval_search_whole (f := ⟨"find_last", true, false⟩)
      shows (by simp [searches]) rfl left right short
    refine ⟨_, _, first, last, eval_contains shows left right, eval_startsWith shows left right,
      value, value', found_iff, found_iff', fun starts => ?_⟩
    have start := run_of_isPrefixOf (f := ⟨"find", false, false⟩) short rfl rfl starts
    rw [found, Except.ok.injEq] at start
    exact start

/-- The empty pattern is found where the search starts, and from the back at the end of the string. -/
theorem searchesString_of_shows_empty :
    let written := fun (s : String) => literal (.string s) s
    let two : Integer .int32 := ⟨2, by decide, by decide⟩
    ∃ c m, standard 0 {} {} = .ok (c, m) ∧ c.Shows strings.functions
      ∧ "abc".length ≤ 2147483647
      ∧ (∃ n : Integer .int32, n.val = 2 ∧ (call "find" [written "abc", written "",
          literal (.integer (some (.int .int32 two))) "2"]).eval c m [] = .ok (.int32 n))
      ∧ ∃ n : Integer .int32, n.val = 3
        ∧ (call "find_last" [written "abc", written ""]).eval c m [] = .ok (.int32 n) := by
  intro written two
  obtain ⟨c, m, loaded⟩ := exists_standard 0
  have shows : c.Shows strings.functions := shows_standard loaded (by simp [packages])
  have string : (written "abc").Denotes c m [] "abc" := denotes_string "abc" "abc"
  have searched := searchesString_of_shows shows string (denotes_string "" "") (by decide)
  have start : Told c m [] [literal (.integer (some (.int .int32 two))) "2"] (some two) none :=
    .start (denotes_integer two "2")
  obtain ⟨n, value, finds⟩ := searched.finds ⟨"find", false, false⟩ (by simp [searches]) _ _ _
    start (by decide)
  obtain ⟨n', value', finds'⟩ := searched.finds ⟨"find_last", true, false⟩ (by simp [searches])
    _ _ _ .nothing (by decide)
  have places := finds.empty_iff rfl
  have places' := finds'.empty_iff rfl
  have first := (finds.found_iff 2).2 ⟨(places 2).2 (by decide), fun p mem => ((places p).1 mem).1⟩
  have last := (finds'.found_iff 3).2
    ⟨(places' 3).2 (by decide), fun p mem => ((places' p).1 mem).2⟩
  exact ⟨c, m, loaded, shows, by decide, ⟨n, first, value⟩, n', last, value'⟩

/-! Numbers that may lie outside -/

/-- What a search comes to with any numbers. -/
structure GuardsWindow (f : Search) (s t : String) (start? count? : Option (Integer .int32))
    (result : Except Error Value) : Prop where
  rejects_iff : (f.backward = true → s ≠ "") →
    ((∃ message, result = .error (.function f.name message))
      ↔ ¬ f.Admits s.length (start?.map (·.val)) (count?.map (·.val)))
  startOutside : (f.backward = true → s ≠ "") → ¬ f.StartFits s.length (start?.map (·.val)) →
    result = .error (outOfRange f.name s.length start? count? .start)
  countOutside : f.StartFits s.length (start?.map (·.val)) →
    ¬ f.CountFits s.length (start?.map (·.val)) (count?.map (·.val)) →
      result = .error (outOfRange f.name s.length start? count? .length)
  inside : f.Admits s.length (start?.map (·.val)) (count?.map (·.val)) →
    ∃ n : Integer .int32, result = .ok (.int32 n)
  /-- The empty string is searched from the back whatever the numbers are. -/
  unguarded : f.backward = true → s = "" →
    result = .ok (.int32 (if t = "" then .zero .int32 else .minusOne))

/-- A search fails exactly with numbers that do not lie in the string, and says which; only through the
empty string it goes from the back with any. -/
theorem guardsWindow_of_shows (shows : c.Shows strings.functions) (known : f ∈ searches)
    (left : x.Denotes c m args s) (right : y.Denotes c m args t)
    (told : Told c m args es start? count?) :
    GuardsWindow f s t start? count? ((call f.name (x :: y :: es)).eval c m args) := by
  rw [eval_search shows known left right told]
  have inside (admits : f.Admits s.length (start?.map (·.val)) (count?.map (·.val))) :
      ∃ n : Integer .int32, (f.run s t start? count?).map Embedded.toValue = .ok (.int32 n) := by
    rw [run_of_admits admits]
    exact ⟨_, rfl⟩
  constructor
  case rejects_iff =>
    intro present
    constructor
    · intro ⟨message, failed⟩ admits
      obtain ⟨n, value⟩ := inside admits
      rw [value] at failed
      cases failed
    · intro outside
      by_cases fits : f.StartFits s.length (start?.map (·.val))
      · rw [run_of_countOutside fits fun fits' => outside ⟨fits, fits'⟩]
        exact ⟨_, rfl⟩
      · rw [run_of_startOutside present fits]
        exact ⟨_, rfl⟩
  case startOutside =>
    intro present outside
    rw [run_of_startOutside present outside]
    rfl
  case countOutside =>
    intro fits outside
    rw [run_of_countOutside fits outside]
    rfl
  case inside => exact inside
  case unguarded =>
    intro backward empty
    rw [empty, run_empty backward]
    rfl

/-- Through three characters a search from the back can neither start at the fourth nor look at three
from the second on; it complains about the start or about the count. -/
theorem guardsWindow_of_shows_three :
    let written := fun (s : String) => literal (.string s) s
    let number := fun (n : Integer .int32) => literal (.integer (some (.int .int32 n))) n.text
    let one : Integer .int32 := ⟨1, by decide, by decide⟩
    let three : Integer .int32 := ⟨3, by decide, by decide⟩
    let complaint := fun (what : String) => (.error (.function "find_last"
      ("The " ++ what ++ " 3 is out of range for a string of length 3.")) : Except Error Value)
    ∃ c m, standard 0 {} {} = .ok (c, m) ∧ c.Shows strings.functions
      ∧ (call "find_last" [written "abc", written "a", number three]).eval c m []
        = complaint "start index"
      ∧ (call "find_last" [written "abc", written "a", number one, number three]).eval c m []
        = complaint "length" := by
  intro written number one three complaint
  obtain ⟨c, m, loaded⟩ := exists_standard 0
  have shows : c.Shows strings.functions := shows_standard loaded (by simp [packages])
  have denotes (n : Integer .int32) : (number n).Denotes c m [] n := denotes_integer n n.text
  have guards := guardsWindow_of_shows (f := ⟨"find_last", true, false⟩) shows
    (by simp [searches]) (denotes_string "abc" "abc") (denotes_string "a" "a")
    (.start (denotes three))
  have guards' := guardsWindow_of_shows (f := ⟨"find_last", true, false⟩) shows
    (by simp [searches]) (denotes_string "abc" "abc") (denotes_string "a" "a")
    (.window (denotes one) (denotes three))
  have start := guards.startOutside (by decide) (by decide)
  have count := guards'.countOutside (by decide) (by decide)
  have digits : Digits.ofNat 3 = ['3'] := by
    rw [Digits.ofNat]
    rfl
  have text : three.text = "3" := congrArg String.ofList digits
  have length : String.ofList (Digits.ofNat "abc".length) = "3" := congrArg String.ofList digits
  refine ⟨c, m, loaded, shows, ?_, ?_⟩
  · rw [start]
    simp only [outOfRange, Option.map_some, Option.getD_some, text, length]
    rfl
  · rw [count]
    simp only [outOfRange, Option.map_some, Option.getD_some, text, length]
    rfl

/-- The empty string has no sixth character, and yet a search from the back that is to start there does
not fail. -/
theorem exists_start_outside_that_is_accepted :
    let five : Integer .int32 := ⟨5, by decide, by decide⟩
    ¬ Search.StartFits ⟨"find_last", true, false⟩ "".length (some five.val)
      ∧ ∃ c m, standard 0 {} {} = .ok (c, m)
        ∧ (call "find_last" [literal (.string "") "", literal (.string "a") "a",
            literal (.integer (some (.int .int32 five))) "5"]).eval c m []
          = .ok (.int32 .minusOne) := by
  intro five
  obtain ⟨c, m, loaded⟩ := exists_standard 0
  have shows : c.Shows strings.functions := shows_standard loaded (by simp [packages])
  have string : (literal (.string "") "").Denotes c m [] "" := denotes_string "" ""
  have value := eval_search (f := ⟨"find_last", true, false⟩) shows (by simp [searches]) string
    (denotes_string "a" "a") (.start (denotes_integer five "5"))
  refine ⟨by decide, c, m, loaded, ?_⟩
  rw [value, run_empty rfl]
  rfl

end Expr

end ExprLang
