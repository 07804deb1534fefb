import ExprLang.Proofs.Library.Remainders
import ExprLang.Proofs.Library.Searches
import ExprLang.Proofs.Library.TextCasts

set_option autoImplicit false

/-!
The functions that cut strings. A start and a number of characters that lie in a string split it in three,
the characters before, the piece and those after it; `substr` yields the piece and `remove` what is around
it. Other numbers are refused.
-/

namespace ExprLang

open Library Library.Strings

namespace Window

variable {before piece after : List Char}

theorem inside_append : Window.inside ⟨before.length, before.length + piece.length⟩
    (before ++ piece ++ after) = piece := by
  rw [inside, ← List.length_append, List.take_left, List.drop_left]

theorem outside_append : Window.outside ⟨before.length, before.length + piece.length⟩
    (before ++ piece ++ after) = before ++ after := by
  rw [outside, ← List.length_append, List.drop_left, List.append_assoc, List.take_left]

theorem exists_split {w : Window} {cs : List Char} (ordered : w.start ≤ w.stop)
    (inside : w.stop ≤ cs.length) : ∃ before piece after, cs = before ++ piece ++ after
      ∧ w = ⟨before.length, before.length + piece.length⟩ := by
  have first : (cs.take w.stop).take w.start = cs.take w.start := by
    rw [List.take_take, Nat.min_eq_left ordered]
  refine ⟨cs.take w.start, (cs.take w.stop).drop w.start, cs.drop w.stop, ?_, ?_⟩
  · rw [← first, List.take_append_drop, List.take_append_drop]
  · rw [List.length_drop, List.length_take_of_le inside,
      List.length_take_of_le (Nat.le_trans ordered inside), Nat.add_sub_cancel' ordered]

end Window

namespace Library.Strings

/-- The functions that cut a string at two places. -/
inductive Cut
  | substr
  | remove

namespace Cut

def name : Cut → String
  | substr => "substr"
  | remove => "remove"

def run : Cut → String → Integer .int32 → Option (Integer .int32) → Except Error String
  | substr => Strings.substr
  | remove => Strings.remove

/-- The part of the string that is kept. -/
def keep : Cut → Window → List Char → List Char
  | substr => Window.inside
  | remove => Window.outside

/-- Whether the characters outside of the window are the ones that are kept. -/
def outer : Cut → Bool
  | substr => false
  | remove => true

/-- Whether the character at a position is kept. -/
def keeps (f : Cut) (w : Window) (p : ℕ) : Bool :=
  if w.start ≤ p ∧ p < w.stop then !f.outer else f.outer

/-- What is kept of a string in three parts. -/
def kept (before piece after : String) : Cut → String
  | substr => piece
  | remove => before ++ after

/-- The numbers lie in a string of `len` characters. -/
def Fits (len : ℕ) (start : ℤ) : Option ℤ → Prop
  | none => 0 ≤ start ∧ start ≤ len
  | some n => 0 ≤ start ∧ 0 ≤ n ∧ start + n ≤ len

instance (len : ℕ) (start : ℤ) : (count : Option ℤ) → Decidable (Fits len start count)
  | none => inferInstanceAs (Decidable (0 ≤ start ∧ start ≤ len))
  | some n => inferInstanceAs (Decidable (0 ≤ start ∧ 0 ≤ n ∧ start + n ≤ len))

/-- The window that the numbers give. -/
def window (len : ℕ) (start : ℤ) (count : Option ℤ) : Window :=
  ⟨start.toNat, (start + count.getD (len - start)).toNat⟩

/-- Which number does not lie in the string: the first that does not. -/
def fault (len : ℕ) (start : ℤ) : WindowFault :=
  if 0 ≤ start ∧ start ≤ len then .length else .start

variable {f : Cut} {s before piece after : String} {a n : Integer .int32}
  {count? : Option (Integer .int32)} {len : ℕ} {start : ℤ} {count : Option ℤ}

theorem forward_of_not_fits (outside : ¬ Fits len start count) :
    Window.forward len start count = .error (fault len start) := by
  unfold Window.forward fault
  by_cases inside : 0 ≤ start ∧ start ≤ len
  · rw [if_neg (by omega), if_pos inside]
    cases count with
    | none => exact absurd inside outside
    | some n =>
      unfold Fits at outside
      exact if_pos (by omega)
  · rw [if_pos (by omega), if_neg inside]

theorem forward_of_fits (fits : Fits len start count) :
    Window.forward len start count = .ok (window len start count) := by
  unfold Window.forward window
  cases count with
  | none =>
    unfold Fits at fits
    rw [if_neg (by omega), Option.getD_none, Int.add_comm start, Int.sub_add_cancel]
    rfl
  | some n =>
    unfold Fits at fits
    rw [if_neg (by omega)]
    exact if_neg (by omega)

/-- A cut keeps its part of the window that the numbers give. -/
theorem run_eq : f.run s a count? = (windowOf f.name s.length (some a) count?
    (Window.forward s.length a.val (count?.map (·.val)))).map
      fun w => String.ofList (f.keep w s.toList) := by
  cases f with
  | substr => exact bind_pure_comp _ _
  | remove => exact bind_pure_comp _ _

theorem run_of_not_fits (outside : ¬ Fits s.length a.val (count?.map (·.val))) :
    f.run s a count?
      = .error (outOfRange f.name s.length (some a) count? (fault s.length a.val)) := by
  rw [run_eq, forward_of_not_fits outside]
  rfl

theorem run_of_fits (fits : Fits s.length a.val (count?.map (·.val))) : f.run s a count?
    = .ok (String.ofList (f.keep (window s.length a.val (count?.map (·.val))) s.toList)) := by
  rw [run_eq, forward_of_fits fits]
  rfl

/-- What a cut complains with is an error of its own. -/
theorem exists_message (len : ℕ) (count? : Option (Integer .int32)) (fault : WindowFault) :
    ∃ message, outOfRange f.name len (some a) count? fault = .function f.name message := by
  cases fault with
  | start => exact ⟨_, rfl⟩
  | length => exact ⟨_, rfl⟩

theorem window_fits (fits : Fits len start count) :
    (window len start count).start ≤ (window len start count).stop
      ∧ (window len start count).stop ≤ len := by
  cases count with
  | none =>
    unfold Fits at fits
    simp only [window, Option.getD_none]
    omega
  | some n =>
    unfold Fits at fits
    simp only [window, Option.getD_some]
    omega

/-- Positions of a part that are all kept, or all left out. -/
theorem filter_positions {keeps : ℕ → Bool} {cs : List Char} {k : ℕ} (b : Bool)
    (all : ∀ p, k ≤ p → p < k + cs.length → keeps p = b) :
    ((cs.zipIdx k).filter fun q => keeps q.2).map Prod.fst = if b then cs else [] := by
  have same : ∀ q ∈ cs.zipIdx k, keeps q.2 = b := by
    intro q mem
    obtain ⟨lower, upper, -⟩ := List.mem_zipIdx mem
    exact all q.2 lower upper
  cases b with
  | true =>
    rw [List.filter_eq_self.2 same, List.zipIdx_map_fst]
    rfl
  | false =>
    rw [List.filter_eq_nil_iff.2 (fun q mem => by simp [same q mem])]
    rfl

/-- A cut keeps the characters at its positions, in their order. -/
theorem keep_eq_filter {w : Window} {cs : List Char} (ordered : w.start ≤ w.stop)
    (inside : w.stop ≤ cs.length) :
    f.keep w cs = (cs.zipIdx.filter fun q => f.keeps w q.2).map Prod.fst := by
  obtain ⟨before, piece, after, rfl, rfl⟩ := Window.exists_split ordered inside
  let w : Window := ⟨before.length, before.length + piece.length⟩
  have first : ((before.zipIdx 0).filter fun q => f.keeps w q.2).map Prod.fst
      = if f.outer then before else [] := by
    apply filter_positions
    intro p lower upper
    exact if_neg (by dsimp only [w]; omega)
  have second : ((piece.zipIdx before.length).filter fun q => f.keeps w q.2).map Prod.fst
      = if !f.outer then piece else [] := by
    apply filter_positions
    intro p lower upper
    exact if_pos ⟨lower, upper⟩
  have third : ((after.zipIdx (before ++ piece).length).filter fun q =>
      f.keeps w q.2).map Prod.fst = if f.outer then after else [] := by
    apply filter_positions
    intro p lower upper
    rw [List.length_append] at lower
    exact if_neg (by dsimp only [w]; omega)
  rw [List.zipIdx_append, List.zipIdx_append, List.filter_append, List.filter_append,
    List.map_append, List.map_append, Nat.zero_add, Nat.zero_add, first, second, third]
  cases f with
  | substr =>
    rw [keep, Window.inside_append]
    simp [outer]
  | remove =>
    rw [keep, Window.outside_append]
    simp [outer]

theorem keep_append (f : Cut) (before piece after : String) :
    String.ofList (f.keep ⟨before.length, before.length + piece.length⟩
      (before ++ piece ++ after).toList) = kept before piece after f := by
  simp only [String.toList_append, ← String.length_toList]
  cases f with
  | substr =>
    rw [keep, Window.inside_append, String.ofList_toList]
    rfl
  | remove =>
    rw [keep, Window.outside_append, String.ofList_append, String.ofList_toList,
      String.ofList_toList]
    rfl

theorem window_eq {b p : ℕ} (place : (b : ℤ) = start)
    (stop : (b + p : ℤ) = start + count.getD (len - start)) :
    window len start count = ⟨b, b + p⟩ := by
  have first : start.toNat = b := by omega
  have last : (start + count.getD (len - start)).toNat = b + p := by omega
  rw [window, first, last]

/-- Of a string in three parts a cut keeps its own, if its numbers are the lengths of the first
two. -/
theorem run_append (place : (before.length : ℤ) = a.val) (size : (piece.length : ℤ) = n.val) :
    f.run (before ++ piece ++ after) a (some n) = .ok (kept before piece after f) := by
  have long : (before ++ piece ++ after).length = before.length + piece.length + after.length := by
    simp only [String.length_append]
  have fits : Fits (before ++ piece ++ after).length a.val (some n.val) := by
    unfold Fits
    omega
  have stop : (before.length + piece.length : ℤ) = a.val + n.val := by rw [place, size]
  rw [run_of_fits fits, Option.map_some, window_eq place stop, keep_append]

/-- Without a number the piece goes to the end of the string. -/
theorem run_append_rest (place : (before.length : ℤ) = a.val) :
    f.run (before ++ piece) a none = .ok (kept before piece "" f) := by
  have long : (before ++ piece).length = before.length + piece.length := String.length_append ..
  have fits : Fits (before ++ piece).length a.val none := by
    unfold Fits
    omega
  have stop : (before.length + piece.length : ℤ)
      = a.val + ((before ++ piece).length - a.val) := by omega
  have kept := keep_append f before piece ""
  rw [String.append_empty] at kept
  rw [run_of_fits fits, Option.map_none, window_eq place stop, kept]

theorem exists_split (nonneg : 0 ≤ start) (inside : start ≤ s.length) : ∃ before after : String,
    s = before ++ after ∧ (before.length : ℤ) = start := by
  refine ⟨String.ofList (s.toList.take start.toNat), String.ofList (s.toList.drop start.toNat),
    ?_, ?_⟩
  · rw [← String.ofList_append, List.take_append_drop, String.ofList_toList]
  · rw [String.length_ofList, List.length_take, String.length_toList]
    omega

/-- Numbers that lie in the string split it in three. -/
theorem exists_parts (fits : Fits s.length start (some n.val)) : ∃ before piece after : String,
    s = before ++ piece ++ after ∧ (before.length : ℤ) = start
      ∧ (piece.length : ℤ) = n.val := by
  obtain ⟨nonneg, nonneg', inside⟩ := fits
  obtain ⟨before, rest, rfl, place⟩ := exists_split (s := s) nonneg (by omega)
  rw [String.length_append] at inside
  obtain ⟨piece, after, rfl, size⟩ := exists_split (s := rest) nonneg' (by omega)
  exact ⟨before, piece, after, (String.append_assoc ..).symm, place, size⟩

end Cut

/-- A cut with and without a number of characters. -/
def cutters (f : Cut) : Registrations :=
  [(f.name, .of fun (s : String) (start : Integer .int32) => f.run s start none),
    (f.name, .of fun (s : String) (start n : Integer .int32) => f.run s start (some n))]

theorem cutters_subset (f : Cut) : cutters f ⊆ strings.functions := by
  intro r mem
  cases f with
  | substr =>
    have mem : r ∈ (strings.functions.drop 6).take 2 := mem
    exact List.mem_of_mem_drop (List.mem_of_mem_take mem)
  | remove =>
    have mem : r ∈ (strings.functions.drop 8).take 2 := mem
    exact List.mem_of_mem_drop (List.mem_of_mem_take mem)

theorem len_mem : ("len", .of fun (s : String) => count "len" s.length) ∈ strings.functions :=
  List.mem_of_mem_head? rfl

theorem exists_int32 {n : ℤ} (nonneg : 0 ≤ n) (le : n ≤ 2147483647) :
    ∃ k : Integer .int32, k.val = n := by
  have lower : IntKind.int32.lo ≤ n := by
    change -2147483648 ≤ n
    omega
  exact ⟨⟨n, lower, le⟩, rfl⟩

/-- A length in the range of `int32` is what it is. -/
theorem count_of_val {k : Integer .int32} {n : ℕ} (same : k.val = n) (function : String) :
    count function n = .ok k := by
  rw [count, Integer.ofInt?_eq_some_iff.2 same]

/-- A context with the built-in packages has the length of strings. -/
theorem member_standard {sample : Float} {o : Options} {c : Context} {m m' : Memory}
    (loaded : standard sample o m = .ok (c, m')) :
    c.member .string "Length" = .ok MemberTable.stringLength := by
  have standard : c.frame.members = MemberTable.standard.resolver := by
    rw [Package.eq_register_of_loadAll loaded, Context.members_register]
  rw [Context.member, standard]
  rfl

end Library.Strings

namespace Expr

open Operator

variable {c : Context} {m : Memory} {args : List Value} {f : Cut} {x y z w : Expr}
  {s before piece after : String} {es : List Expr} {a b k n : Integer .int32}
  {count? : Option (Integer .int32)}

theorem eval_cut (shows : c.Shows strings.functions) (text : x.Denotes c m args s)
    (told : Told c m args es (some a) count?) :
    (call f.name (x :: es)).ty c m = .string
      ∧ (call f.name (x :: es)).eval c m args = (f.run s a count?).map Embedded.toValue := by
  have shown := shows.of_subset (cutters_subset f)
  cases told with
  | start first => exact eval_call (shown _ List.mem_cons_self) (.cons text (.cons first .nil))
  | window first second =>
    have means := shown _ (List.mem_cons_of_mem _ List.mem_cons_self)
    exact eval_call means (.cons text (.cons first (.cons second .nil)))

/-- A piece with a start and a number of characters. -/
theorem denotes_cut (shows : c.Shows strings.functions)
    (text : x.Denotes c m args (before ++ piece ++ after)) (start : y.Denotes c m args a)
    (number : w.Denotes c m args n) (place : (before.length : ℤ) = a.val)
    (size : (piece.length : ℤ) = n.val) :
    (call f.name [x, y, w]).Denotes c m args (f.kept before piece after) := by
  obtain ⟨type, value⟩ := eval_cut (f := f) shows text (.window start number)
  rw [Cut.run_append place size] at value
  exact ⟨type, value⟩

/-- A piece that goes to the end. -/
theorem denotes_cut_rest (shows : c.Shows strings.functions)
    (text : x.Denotes c m args (before ++ piece)) (start : y.Denotes c m args a)
    (place : (before.length : ℤ) = a.val) :
    (call f.name [x, y]).Denotes c m args (f.kept before piece "") := by
  obtain ⟨type, value⟩ := eval_cut (f := f) shows text (.start start)
  rw [Cut.run_append_rest place] at value
  exact ⟨type, value⟩

theorem denotes_len (shows : c.Shows strings.functions) (text : x.Denotes c m args s)
    (long : k.val = s.length) : (call "len" [x]).Denotes c m args k := by
  obtain ⟨type, value⟩ := eval_call (shows _ len_mem) (.cons text .nil)
  refine ⟨type, value.trans ?_⟩
  change (count "len" s.length).map Embedded.toValue = _
  rw [count_of_val long]
  rfl

theorem denotes_length (known : c.member .string "Length" = .ok MemberTable.stringLength)
    (text : x.Denotes c m args s) (long : k.val = s.length) :
    (member x "Length").Denotes c m args k := by
  have string : x.ty c m = .string := text.ty
  constructor
  · rw [ty, string, known]
    rfl
  · rw [eval, string, known, text.value]
    have read : MemberTable.stringLength.read (.string s) = .ok (.int32 k) := by
      simp only [MemberTable.stringLength, Integer.ofInt?_eq_some_iff.2 long]
    exact read

/-- Arithmetic on integers of the kind `int32` denotes what it is on unbounded integers, if this is in
the range. -/
theorem denotes_arithmetic {op : Operator} (numeric : op.family = .numeric) (notPower : op ≠ power)
    (left : x.Denotes c m args a) (right : y.Denotes c m args b)
    (exact : op.onIntegers? a.val b.val = some k.val) :
    (operation x op y).Denotes c m args k := by
  constructor
  · rw [ty, left.ty, right.ty, resultTy, numeric]
    exact if_neg notPower
  · rw [eval_operation left.value right.value]
    exact apply_of_member rfl numeric notPower exact

/-! What is cut out and what is left -/

/-- What a cut of the string `s` with any numbers comes to. -/
structure GuardsCut (f : Cut) (s : String) (a : Integer .int32) (count? : Option (Integer .int32))
    (result : Except Error Value) : Prop where
  accepts_iff : (∃ r : String, result = .ok (.string r))
    ↔ Cut.Fits s.length a.val (count?.map (·.val))
  /-- The characters that are kept are those at the positions of the cut. -/
  kept : ∀ r : String, result = .ok (.string r) → r.toList = (s.toList.zipIdx.filter fun q =>
    f.keeps (Cut.window s.length a.val (count?.map (·.val))) q.2).map Prod.fst
  rejects_iff : (∃ message, result = .error (.function f.name message))
    ↔ ¬ Cut.Fits s.length a.val (count?.map (·.val))
  complaint : ¬ Cut.Fits s.length a.val (count?.map (·.val)) →
    result = .error (outOfRange f.name s.length (some a) count? (Cut.fault s.length a.val))

/-- What is cut out of a string and what is left make it up again, where `z` stands for zero. -/
structure Rejoins (c : Context) (m : Memory) (args : List Value) (x z y w : Expr) (s : String)
    (n : Integer .int32) : Prop where
  whole : (operation (operation (call "substr" [x, z, y]) concatenation
    (call "substr" [x, y, w])) concatenation (call "substr" [x, operation y addition w])).Denotes
      c m args s
  around : ∃ r : String, (call "remove" [x, y, w]).Denotes c m args r
    ∧ (operation (call "substr" [x, z, y]) concatenation
      (call "substr" [x, operation y addition w])).Denotes c m args r
  size : (call "len" [call "substr" [x, y, w]]).Denotes c m args n

/-- What becomes of a string that is cut. -/
structure CutsString (c : Context) (m : Memory) (args : List Value) (x : Expr) (s : String) :
    Prop where
  guards : ∀ (f : Cut) es (a : Integer .int32) count?, Told c m args es (some a) count? →
    GuardsCut f s a count? ((call f.name (x :: es)).eval c m args)
  rejoins : ∀ z y w (a n : Integer .int32), z.Denotes c m args (Integer.zero .int32) →
    y.Denotes c m args a → w.Denotes c m args n → Cut.Fits s.length a.val (some n.val) →
      Rejoins c m args x z y w s n
  /-- Without a number of characters a cut goes to the end. -/
  toEnd : ∀ (f : Cut) y (a : Integer .int32), y.Denotes c m args a →
    Cut.Fits s.length a.val none → ∃ r : String, (call f.name [x, y]).Denotes c m args r
      ∧ (call f.name [x, y, operation (call "len" [x]) subtraction y]).Denotes c m args r
  length : ∃ k : Integer .int32, k.val = s.length ∧ (call "len" [x]).Denotes c m args k
    ∧ (member x "Length").Denotes c m args k

theorem guardsCut_of_told (shows : c.Shows strings.functions) (text : x.Denotes c m args s)
    (told : Told c m args es (some a) count?) :
    GuardsCut f s a count? ((call f.name (x :: es)).eval c m args) := by
  rw [(eval_cut shows text told).2]
  by_cases fits : Cut.Fits s.length a.val (count?.map (·.val))
  · rw [Cut.run_of_fits fits]
    constructor
    case accepts_iff => exact iff_of_true ⟨_, rfl⟩ fits
    case kept =>
      intro r value
      cases value
      have inside := Cut.window_fits fits
      rw [String.toList_ofList]
      exact Cut.keep_eq_filter inside.1 (String.length_toList ▸ inside.2)
    case rejects_iff =>
      refine iff_of_false ?_ (fun outside => outside fits)
      intro ⟨message, failed⟩
      cases failed
    case complaint =>
      intro outside
      exact absurd fits outside
  · obtain ⟨message, complaint⟩ := Cut.exists_message (f := f) (a := a) s.length count?
      (Cut.fault s.length a.val)
    rw [Cut.run_of_not_fits fits]
    constructor
    case accepts_iff =>
      refine iff_of_false ?_ fits
      intro ⟨r, value⟩
      cases value
    case kept => nofun
    case rejects_iff => exact iff_of_true ⟨message, congrArg Except.error complaint⟩ fits
    case complaint => exact fun _ => rfl

theorem rejoins_of_fits (shows : c.Shows strings.functions) (text : x.Denotes c m args s)
    (short : s.length ≤ 2147483647) (zero : z.Denotes c m args (Integer.zero .int32))
    (start : y.Denotes c m args a) (number : w.Denotes c m args n)
    (fits : Cut.Fits s.length a.val (some n.val)) : Rejoins c m args x z y w s n := by
  obtain ⟨before, piece, after, rfl, place, size⟩ := Cut.exists_parts fits
  have long : (before ++ piece ++ after).length = before.length + piece.length + after.length := by
    simp only [String.length_append]
  obtain ⟨stop, sum⟩ := exists_int32 (n := a.val + n.val) (by omega) (by omega)
  have first : (call "substr" [x, z, y]).Denotes c m args before := by
    have split : x.Denotes c m args ("" ++ before ++ (piece ++ after)) := by
      rw [String.empty_append, ← String.append_assoc]
      exact text
    exact denotes_cut (f := .substr) shows split zero start rfl place
  have second : (call "substr" [x, y, w]).Denotes c m args piece :=
    denotes_cut (f := .substr) shows text start number place size
  have added : (operation y addition w).Denotes c m args stop :=
    denotes_arithmetic rfl (by decide) start number (congrArg some sum.symm)
  have third : (call "substr" [x, operation y addition w]).Denotes c m args after := by
    apply denotes_cut_rest (f := .substr) shows text added
    rw [String.length_append, Nat.cast_add, place, size, sum]
  constructor
  · exact denotes_concatenation (denotes_concatenation first second) third
  · have removed := denotes_cut (f := .remove) shows text start number place size
    exact ⟨before ++ after, removed, denotes_concatenation first third⟩
  · exact denotes_len shows second size.symm

/-- Strings are cut exactly at places that they have, and nothing is lost. -/
theorem cutsString_of_shows (shows : c.Shows strings.functions)
    (known : c.member .string "Length" = .ok MemberTable.stringLength)
    (text : x.Denotes c m args s) (short : s.length ≤ 2147483647) : CutsString c m args x s := by
  obtain ⟨k, long⟩ := exists_int32 (n := s.length) (by omega) (by omega)
  have length : (call "len" [x]).Denotes c m args k := denotes_len shows text long
  constructor
  case guards =>
    intro f es a count? told
    exact guardsCut_of_told shows text told
  case rejoins =>
    intro z y w a n zero start number fits
    exact rejoins_of_fits shows text short zero start number fits
  case toEnd =>
    intro f y a start fits
    obtain ⟨before, piece, rfl, place⟩ := Cut.exists_split fits.1 fits.2
    rw [String.length_append] at short long
    obtain ⟨n, rest⟩ := exists_int32 (n := k.val - a.val) (by omega) (by omega)
    have number : (operation (call "len" [x]) subtraction y).Denotes c m args n :=
      denotes_arithmetic rfl (by decide) length start (congrArg some rest.symm)
    have whole : x.Denotes c m args (before ++ piece ++ "") := by
      rw [String.append_empty]
      exact text
    exact ⟨_, denotes_cut_rest shows text start place,
      denotes_cut shows whole start number place (by omega)⟩
  case length => exact ⟨k, long, length, denotes_length known text long⟩

/-- Five characters, of which one has two bytes, are cut after the first and after another three; a cut
after the sixth is refused. -/
theorem cutsString_of_shows_accented :
    let x := literal (.string "héllo") "héllo"
    let number := fun (n : Integer .int32) => literal (.integer (some (.int .int32 n))) n.text
    let one : Integer .int32 := ⟨1, by decide, by decide⟩
    let three : Integer .int32 := ⟨3, by decide, by decide⟩
    let six : Integer .int32 := ⟨6, by decide, by decide⟩
    ∃ c m, standard 0 {} {} = .ok (c, m) ∧ c.Shows strings.functions
      ∧ c.member .string "Length" = .ok MemberTable.stringLength
      ∧ x.Denotes c m [] "héllo" ∧ "héllo".length ≤ 2147483647
      ∧ Rejoins c m [] x (number (Integer.zero .int32)) (number one) (number three) "héllo" three
      ∧ ∃ message, (call "substr" [x, number six]).eval c m []
        = .error (.function "substr" message) := by
  intro x number one three six
  obtain ⟨c, m, loaded⟩ := exists_standard 0
  have shows : c.Shows strings.functions := shows_standard loaded (by simp [packages])
  have known := member_standard loaded
  have text : x.Denotes c m [] "héllo" := denotes_string "héllo" "héllo"
  have denotes (n : Integer .int32) : (number n).Denotes c m [] n := denotes_integer n n.text
  have cut := cutsString_of_shows shows known text (by decide)
  have pieces := cut.rejoins _ _ _ one three (denotes _) (denotes one) (denotes three) (by decide)
  have guard := cut.guards .substr _ six none (.start (denotes six))
  exact ⟨c, m, loaded, shows, known, text, by decide, pieces, guard.rejects_iff.2 (by decide)⟩

end Expr

end ExprLang
