import ExprLang.Options.Json
import ExprLang.Proofs.Json.Spelling

set_option autoImplicit false

/-!
Options and their JSON form. An object with some of the fields of options, in any order and among
members that are no fields, is read as the default options with just these fields replaced.
-/

namespace ExprLang

theorem Quote.ofJson?_name (q : Quote) : Quote.ofJson? (.string (some q.name)) = some q := by
  cases q <;> rfl

namespace Options

/-! Replacing fields -/

/-- The new value where the name is among the names, else the old one. -/
def pick {α : Type} (names : List String) (name : String) (new old : α) : α :=
  if name ∈ names then new else old

/-- The options `base` with those of the fields `names` that `o` has. -/
def overlay (base o : Options) (names : List String) : Options where
  memberRead := pick names "member_read" o.memberRead base.memberRead
  ignoreOperatorCase :=
    pick names "ignore_operator_case" o.ignoreOperatorCase base.ignoreOperatorCase
  ignoreBooleanCase :=
    pick names "ignore_boolean_literal_case" o.ignoreBooleanCase base.ignoreBooleanCase
  ignoreNullCase := pick names "ignore_null_literal_case" o.ignoreNullCase base.ignoreNullCase
  ignoreNullTestCase :=
    pick names "ignore_null_test_case" o.ignoreNullTestCase base.ignoreNullTestCase
  ignoreConditionalCase :=
    pick names "ignore_conditional_case" o.ignoreConditionalCase base.ignoreConditionalCase
  ignoreVariableCase :=
    pick names "ignore_variable_name_case" o.ignoreVariableCase base.ignoreVariableCase
  ignoreParameterCase :=
    pick names "ignore_parameter_name_case" o.ignoreParameterCase base.ignoreParameterCase
  ignoreFunctionCase :=
    pick names "ignore_function_name_case" o.ignoreFunctionCase base.ignoreFunctionCase
  quote := pick names "quote_style" o.quote base.quote
  andWord := pick names "operator_and_name" o.andWord base.andWord
  orWord := pick names "operator_or_name" o.orWord base.orWord
  xorWord := pick names "operator_xor_name" o.xorWord base.xorWord
  trueWord := pick names "literal_true_name" o.trueWord base.trueWord
  falseWord := pick names "literal_false_name" o.falseWord base.falseWord
  nullWord := pick names "literal_null_name" o.nullWord base.nullWord
  conditionalWord := pick names "conditional_name" o.conditionalWord base.conditionalWord
  nullTestWord := pick names "null_test_name" o.nullTestWord base.nullTestWord

section pick

variable {α : Type} {names : List String} {name : String} {new old : α}

theorem pick_nil : pick [] name new old = old := if_neg List.not_mem_nil

theorem pick_pick {first : String} :
    pick names name new (pick [first] name new old) = pick (first :: names) name new old := by
  simp only [pick, List.mem_cons, List.not_mem_nil, or_false]
  by_cases here : name = first <;> by_cases later : name ∈ names <;> simp [here, later]

end pick

variable {o base : Options} {names : List String}

theorem overlay_nil : base.overlay o [] = base := by
  simp only [overlay, pick_nil]

theorem overlay_fieldNames : base.overlay o fieldNames = o := by
  simp [overlay, pick, fieldNames]

theorem overlay_overlay {name : String} :
    (base.overlay o [name]).overlay o names = base.overlay o (name :: names) := by
  simp only [overlay, pick_pick]

theorem overlay_congr {names' : List String}
    (same : ∀ name ∈ fieldNames, (name ∈ names ↔ name ∈ names')) :
    base.overlay o names = base.overlay o names' := by
  simp only [fieldNames, List.forall_mem_cons] at same
  simp only [overlay, pick, same]

theorem overlay_cons_of_notMem {name : String} (other : name ∉ fieldNames) :
    base.overlay o (name :: names) = base.overlay o names := by
  refine overlay_congr fun field mem => ?_
  have ne : field ≠ name := fun same => other (same ▸ mem)
  simp only [List.mem_cons, ne, false_or]

theorem fields_overlay : (base.overlay o names).fields
    = List.zipWith (fun new old => if new.1 ∈ names then new else old) o.fields base.fields := by
  simp only [fields, overlay, List.zipWith_cons_cons, List.zipWith_nil_left, List.cons.injEq,
    and_true]
  and_intros <;> (rw [pick]; split <;> rfl)

theorem setField?_eq {name : String} {j : Json} (field : (name, j) ∈ o.fields) :
    base.setField? name j = some (base.overlay o [name]) := by
  have quote : base.setField? "quote_style" (.string (some o.quote.name))
      = some (base.overlay o ["quote_style"]) := by
    change (Quote.ofJson? (.string (some o.quote.name))).map (fun q => { base with quote := q }) = _
    rw [Quote.ofJson?_name]
    rfl
  have each : ∀ m ∈ o.fields, base.setField? m.1 m.2 = some (base.overlay o [m.1]) := by
    simp only [fields, List.forall_mem_cons]
    exact ⟨rfl, rfl, rfl, rfl, rfl, rfl, rfl, rfl, rfl, quote, rfl, rfl, rfl, rfl, rfl, rfl, rfl,
      rfl, List.forall_mem_nil _⟩
  exact each _ field

/-! Objects and arrays -/

theorem map_fst_fields (o : Options) : o.fields.map Prod.fst = fieldNames := rfl

/-- A JSON object with these members. -/
def object (members : List (String × Json)) : Json :=
  .object (members.map fun (name, j) => (some name, j))

/-- A member that is a field has the value of the options there, and no field stands twice. Members
that are no fields can stand anywhere among them. -/
structure Holds (o : Options) (members : List (String × Json)) : Prop where
  fields : ∀ m ∈ members, m.1 ∈ fieldNames → m ∈ o.fields
  once : ((members.map Prod.fst).filter (· ∈ fieldNames)).Nodup

/-- Members are read one after another; `seen` are the fields that have been read. -/
theorem ofMembers?_eq {members : List (String × Json)} (holds : o.Holds members)
    {seen : List String} (fresh : ∀ m ∈ members, m.1 ∈ fieldNames → m.1 ∉ seen) :
    ofMembers? seen base (members.map fun (name, j) => (some name, j))
      = some (base.overlay o (members.map Prod.fst)) := by
  induction members generalizing base seen with
  | nil => rw [List.map_nil, List.map_nil, ofMembers?, overlay_nil]
  | cons m members ih =>
    obtain ⟨name, j⟩ := m
    have ⟨fields, once⟩ := holds
    rw [List.map_cons, List.map_cons, ofMembers?]
    have fieldsRest : ∀ m ∈ members, m.1 ∈ fieldNames → m ∈ o.fields :=
      fun m mem => fields m (List.mem_cons_of_mem _ mem)
    by_cases field : name ∈ fieldNames
    · -- No later member has this name, so adding it to those that were seen refuses none of them.
      rw [List.map_cons, List.filter_cons_of_pos (by simpa using field), List.nodup_cons] at once
      have later : ∀ m ∈ members, m.1 ∈ fieldNames → m.1 ∉ name :: seen := by
        intro m mem known
        rw [List.mem_cons, not_or]
        refine ⟨fun same => once.1 ?_, fresh m (List.mem_cons_of_mem _ mem) known⟩
        rw [← same]
        exact List.mem_filter.2 ⟨List.mem_map.2 ⟨m, mem, rfl⟩, by simpa using known⟩
      rw [if_pos field, if_neg (fresh (name, j) List.mem_cons_self field),
        setField?_eq (fields (name, j) List.mem_cons_self field), Option.bind_some,
        ih ⟨fieldsRest, once.2⟩ later, overlay_overlay]
    · rw [List.map_cons, List.filter_cons_of_neg (by simpa using field)] at once
      rw [if_neg field, ih ⟨fieldsRest, once⟩ fun m mem => fresh m (List.mem_cons_of_mem _ mem),
        overlay_cons_of_notMem field]

theorem ofJson?_object {members : List (String × Json)} (holds : o.Holds members) :
    ofJson? (object members) = some (({} : Options).overlay o (members.map Prod.fst)) :=
  ofMembers?_eq holds fun _ _ _ => List.not_mem_nil

theorem ofElements?_eq {fs : List (String × Json)} (fields : ∀ m ∈ fs, m ∈ o.fields) (n : Nat) :
    ofElements? base (fs.map Prod.fst) ((fs.take n).map Prod.snd)
      = some (base.overlay o ((fs.take n).map Prod.fst)) := by
  induction fs generalizing base n with
  | nil => rw [List.take_nil, List.map_nil, List.map_nil, ofElements?, overlay_nil]
  | cons m fs ih =>
    cases n with
    | zero => rw [List.take_zero, List.map_nil, List.map_nil, ofElements?, overlay_nil]
    | succ n =>
      have ⟨first, rest⟩ := List.forall_mem_cons.1 fields
      rw [List.take_succ_cons, List.map_cons, List.map_cons, List.map_cons, ofElements?,
        setField?_eq first, Option.bind_some, ih rest, overlay_overlay]

theorem ofJson?_array (n : Nat) : ofJson? (.array ((o.fields.take n).map Prod.snd))
    = some (({} : Options).overlay o ((o.fields.take n).map Prod.fst)) :=
  ofElements?_eq (fun _ mem => mem) n

theorem holds_take (n : Nat) : o.Holds (o.fields.take n) := by
  refine ⟨fun m mem _ => List.mem_of_mem_take mem, ?_⟩
  rw [List.map_take, map_fst_fields]
  exact (List.filter_sublist.trans (List.take_sublist n fieldNames)).nodup (by decide)

theorem ofJson?_toJson (o : Options) : ofJson? o.toJson = some o := by
  have holds := holds_take (o := o) o.fields.length
  rw [List.take_length] at holds
  exact (ofJson?_object holds).trans (congrArg some overlay_fieldNames)

/-! Texts -/

theorem read?_of_text {j : Json} {text : String} (h : Json.Text j text.toList) :
    read? text = ofJson? j := by
  rw [read?, Json.parse?_of_text h, Option.bind_some]

theorem exists_fieldText (o : Options) : ∀ m ∈ o.fields, ∃ t, Json.ValueText m.2 t := by
  have flag : ∀ b, ∃ t, Json.ValueText (.bool b) t := by
    intro b
    cases b with
    | false => exact ⟨_, .word (w := "false") (by simp [Json.words])⟩
    | true => exact ⟨_, .word (w := "true") (by simp [Json.words])⟩
  have word : ∀ s, ∃ t, Json.ValueText (.string (some s)) t :=
    fun s => ⟨_, .string (Json.stringText_encoded s)⟩
  simp only [fields, List.forall_mem_cons]
  exact ⟨flag _, flag _, flag _, flag _, flag _, flag _, flag _, flag _, flag _, word _, word _,
    word _, word _, word _, word _, word _, word _, word _, List.forall_mem_nil _⟩

/-- Options come back from every text of their JSON form, as a whole or in part, and there are such
texts. -/
structure SurvivesJson (o : Options) : Prop where
  whole : ∀ text : String, Json.Text o.toJson text.toList → read? text = some o
  selection : ∀ members, o.Holds members →
    ∀ text : String, Json.Text (object members) text.toList →
      read? text = some (({} : Options).overlay o (members.map Prod.fst))
  leading : ∀ (n : Nat) (text : String),
    Json.Text (.array ((o.fields.take n).map Prod.snd)) text.toList →
      read? text = some (({} : Options).overlay o ((o.fields.take n).map Prod.fst))
  replaced : ∀ names, (({} : Options).overlay o names).fields = List.zipWith
    (fun new old => if new.1 ∈ names then new else old) o.fields ({} : Options).fields
  written : ∀ members : List (String × Json),
    (∀ m ∈ members, m ∈ o.fields ∨ ∃ t, Json.ValueText m.2 t) →
    (∃ text : String, Json.Text (object members) text.toList)
      ∧ ∃ text : String, Json.Text (.array (members.map Prod.snd)) text.toList

theorem survivesJson (o : Options) : o.SurvivesJson where
  whole text h := (read?_of_text h).trans (ofJson?_toJson o)
  selection _ holds text h := (read?_of_text h).trans (ofJson?_object holds)
  leading n text h := (read?_of_text h).trans (ofJson?_array n)
  replaced _ := fields_overlay
  written members each := by
    have spelled : ∀ m ∈ members, ∃ t, Json.ValueText m.2 t :=
      fun m mem => (each m mem).elim (exists_fieldText o m) id
    refine ⟨Json.exists_text (Json.exists_objectText spelled),
      Json.exists_text (Json.exists_arrayText fun j mem => ?_)⟩
    obtain ⟨m, inside, rfl⟩ := List.mem_map.1 mem
    exact spelled m inside

end Options

end ExprLang
