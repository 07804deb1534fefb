import ExprLang.Proofs.Library.Calls
import ExprLang.Proofs.Numeric.IntegerText

set_option autoImplicit false

/-!
The built-in casts between integers and texts. An integer that is cast to text is cast back to itself,
also with white space around the text; and of all texts those are cast to an integer that are numerals
of the kind between white space, with a number in its range.
-/

namespace ExprLang

open Library Library.Casts

namespace Library.Casts

/-- The built-in cast of texts to a kind. -/
def textCast (k : Kind) : Handle := single .string (.numeric k) (castText (castName k) k)

/-- The built-in cast of values of a type to text. -/
def castToText (t : Ty) : Handle := single t .string fun v => .ok (.string v.text)

theorem textCast_mem (k : Kind) : (castName k, textCast k) ∈ casts.functions := by
  apply List.mem_append_left
  apply List.mem_flatMap.2
  exact ⟨k, k.mem_all, List.mem_append_right _ List.mem_cons_self⟩

theorem castToText_mem (k : Kind) : ("c_str", castToText (.numeric k)) ∈ casts.functions := by
  apply List.mem_append_right
  apply List.mem_map.2
  exact ⟨.numeric k, List.mem_append_left _ (List.mem_map_of_mem k.mem_all), rfl⟩

variable {k : IntKind} {s : String}

/-- What the cast of the text `s` to an integer kind comes to. -/
structure CastsNumeral (k : IntKind) (s : String) (result : Except Error Value) : Prop where
  accepts_iff : ∀ v, result = .ok v
    ↔ ∃ a : Integer k, v = .number (.int k a) ∧ Integer.Padded k s a.val
  rejects : (¬ ∃ v, result = .ok v) → result
    = .error (.function (castName (.int k)) ("'" ++ s ++ "' is not a valid " ++ k.name ++ "."))

/-- A numeral of a member of the kind is cast to this member. -/
theorem castText_of_padded {a : Integer k} (padded : Integer.Padded k s a.val) :
    castText (castName (.int k)) (.int k) (.string s) = .ok (.number (.int k a)) := by
  have read := Integer.parse?_trim_eq_some_iff.2 padded
  simp only [castText, Number.parse?, read, Option.map_some]

theorem castText_of_unread (unread : ∀ a : Integer k, ¬ Integer.Padded k s a.val) :
    castText (castName (.int k)) (.int k) (.string s) = .error
      (.function (castName (.int k)) ("'" ++ s ++ "' is not a valid " ++ k.name ++ ".")) := by
  have nothing : Integer.parse? k (trim s.toList) = none := by
    apply Option.eq_none_iff_forall_ne_some.2
    intro a read
    exact unread a (Integer.parse?_trim_eq_some_iff.1 read)
  simp only [castText, Number.parse?, nothing, Option.map_none, Kind.name]

theorem castsNumeral_castText (k : IntKind) (s : String) :
    CastsNumeral k s (castText (castName (.int k)) (.int k) (.string s)) := by
  by_cases known : ∃ a : Integer k, Integer.Padded k s a.val
  · obtain ⟨a, padded⟩ := known
    have accepted := castText_of_padded padded
    refine ⟨fun v => ⟨fun value => ?_, ?_⟩, fun refused => absurd ⟨_, accepted⟩ refused⟩
    · rw [accepted, Except.ok.injEq] at value
      exact ⟨a, value.symm, padded⟩
    · rintro ⟨a', rfl, padded'⟩
      exact castText_of_padded padded'
  · have refused := castText_of_unread (fun a padded => known ⟨a, padded⟩)
    refine ⟨fun v => ⟨fun value => ?_, ?_⟩, fun _ => refused⟩
    · rw [refused] at value
      cases value
    · rintro ⟨a, -, padded⟩
      exact absurd ⟨a, padded⟩ known

end Library.Casts

namespace Expr

variable {c : Context} {m : Memory} {args : List Value} {k : IntKind}

theorem eval_textCast (shows : c.Shows casts.functions) (k : IntKind) {e : Expr} {s : String}
    (text : e.Denotes c m args s) :
    (call (castName (.int k)) [e]).ty c m = .int k
      ∧ (call (castName (.int k)) [e]).eval c m args
        = castText (castName (.int k)) (.int k) (.string s) :=
  eval_call (shows _ (textCast_mem (.int k))) (.cons text .nil)

theorem denotes_castToText (shows : c.Shows casts.functions) {e : Expr} {a : Integer k}
    (integer : e.Denotes c m args a) : (call "c_str" [e]).Denotes c m args a.text := by
  obtain ⟨type, value⟩ := eval_call (shows _ (castToText_mem (.int k))) (.cons integer .nil)
  exact ⟨type, value⟩

theorem denotes_concatenation {x y : Expr} {s t : String} (left : x.Denotes c m args s)
    (right : y.Denotes c m args t) :
    (operation x .concatenation y).Denotes c m args (s ++ t) := by
  constructor
  · rw [ty]
    rfl
  · rw [eval_operation left.value right.value]
    rfl

/-- What a context makes of integers of a kind that are cast to text and of texts that are cast to the
kind. -/
structure CastsThroughText (c : Context) (m : Memory) (args : List Value) (k : IntKind) : Prop where
  back : ∀ (e : Expr) (a : Integer k), e.Denotes c m args a →
    (call (castName (.int k)) [call "c_str" [e]]).Denotes c m args a
  /-- White space around the text makes no difference. -/
  padded : ∀ (x e y : Expr) (before after : String) (a : Integer k), x.Denotes c m args before →
    e.Denotes c m args a → y.Denotes c m args after → White before.toList → White after.toList →
    (call (castName (.int k)) [operation (operation x .concatenation (call "c_str" [e]))
      .concatenation y]).Denotes c m args a
  numerals : ∀ (e : Expr) (s : String), e.Denotes c m args s →
    CastsNumeral k s ((call (castName (.int k)) [e]).eval c m args)

/-- A text with a numeral of a member of the kind denotes this member when it is cast. -/
theorem denotes_textCast (shows : c.Shows casts.functions) {e : Expr} {s : String} {a : Integer k}
    (text : e.Denotes c m args s) (padded : Integer.Padded k s a.val) :
    (call (castName (.int k)) [e]).Denotes c m args a := by
  obtain ⟨type, value⟩ := eval_textCast shows k text
  rw [castText_of_padded padded] at value
  exact ⟨type, value⟩

/-- Casting an integer to text and back changes nothing, and no text is cast to an integer but the
numerals of the kind. -/
theorem castsThroughText_of_shows (shows : c.Shows casts.functions) (m : Memory)
    (args : List Value) (k : IntKind) : CastsThroughText c m args k where
  back e a integer := by
    apply denotes_textCast shows (denotes_castToText shows integer)
    exact ⟨[], a.digits, [], by simp [Integer.text], nofun, nofun, a.numeral_digits⟩
  padded x e y before after a left integer right white white' := by
    have text := denotes_concatenation left (denotes_castToText shows integer)
    apply denotes_textCast shows (denotes_concatenation text right)
    refine ⟨before.toList, a.digits, after.toList, ?_, white, white', a.numeral_digits⟩
    simp [Integer.text]
  numerals e s text := by
    rw [(eval_textCast shows k text).2]
    exact castsNumeral_castText k s

/-- The least `sbyte` is cast to text and back; a sign, leading zeros and white space are read over; a
`byte` has no minus sign, not even before a zero. -/
theorem castsThroughText_of_shows_signs :
    let least : Integer .sbyte := ⟨-128, by decide, by decide⟩
    let seven : Integer .byte := ⟨7, by decide, by decide⟩
    let written := fun (s : String) => literal (.string s) s
    ∃ c m, standard 0 {} {} = .ok (c, m) ∧ c.Shows casts.functions
      ∧ (call "c_sbyte" [call "c_str" [literal (.integer (some (.int .sbyte least))) "-128"]]).eval
        c m [] = .ok (.number (.int .sbyte least))
      ∧ (call "c_byte" [written "\t+007 "]).eval c m [] = .ok (.number (.int .byte seven))
      ∧ ∀ v, (call "c_byte" [written "-0"]).eval c m [] ≠ .ok v := by
  intro least seven written
  obtain ⟨c, m, loaded⟩ := exists_standard 0
  have shows : c.Shows casts.functions := shows_standard loaded (by simp [packages])
  have sbyte := castsThroughText_of_shows shows m [] .sbyte
  have byte := castsThroughText_of_shows shows m [] .byte
  have accepted := byte.numerals (written "\t+007 ") _ (denotes_string _ _)
  have refused := byte.numerals (written "-0") _ (denotes_string _ _)
  refine ⟨c, m, loaded, shows, (sbyte.back _ least (denotes_integer least _)).value, ?_, ?_⟩
  · apply (accepted.accepts_iff _).2
    refine ⟨seven, rfl, Integer.parse?_trim_eq_some_iff.1 ?_⟩
    decide
  · intro v value
    obtain ⟨a, -, padded⟩ := (refused.accepts_iff v).1 value
    have read := Integer.parse?_trim_eq_some_iff.2 padded
    have unread : Integer.parse? .byte (trim "-0".toList) = none := by decide
    rw [unread] at read
    cases read

end Expr

end ExprLang
