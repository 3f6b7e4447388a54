import LintServer.Json.Reader
import LintServer.Json.Writer
import LintServer.Proofs.Json.Fields
import LintServer.Proofs.Json.Literal
import LintServer.Proofs.Json.Numeral
import LintServer.Proofs.Text.Utf8

/-!
# Reading values that have been written

The compact text of a value tells where each part of it ends, so every part can be read whatever
follows it. Objects come back as they were because their fields are written in order.

* `Plain`: values with whole numbers of 64 bits only, and their fields in order;
* `chars`, `toList_write`: the text of a value, piece by piece;
* `Reads`, **`Plain.reads`**: a value at the start of a text;
* **`parse?_render`**, **`ofBytes?_render`**: a text that has been written is read back.
-/

namespace LintServer.Json

/-- Values with whole numbers of 64 bits only, and the fields of every object in order. -/
inductive Plain : Json → Prop
  | null : Plain null
  | bool (b : Bool) : Plain (bool b)
  | number {z : Int} (hlow : -(2 ^ 63) ≤ z) (hhigh : z < 2 ^ 64) : Plain (number (.int z))
  | string (s : String) : Plain (string s)
  | array {items : List Json} (hitems : ∀ v ∈ items, Plain v) : Plain (array items)
  | object {fields : List (String × Json)} (hsorted : Sorted fields)
      (hfields : ∀ f ∈ fields, Plain f.2) : Plain (object fields)

/-! ## Texts -/

mutual

/-- The characters of a value. -/
def chars : Json → List Char
  | null => ['n', 'u', 'l', 'l']
  | bool true => ['t', 'r', 'u', 'e']
  | bool false => ['f', 'a', 'l', 's', 'e']
  | number n => n.render.toList
  | string s => Literal.chars s.toList
  | array [] => ['[', ']']
  | array (v :: vs) => '[' :: (chars v ++ (moreItems vs ++ [']']))
  | object [] => ['\x7b', '\x7d']
  | object ((k, v) :: fs) =>
    '\x7b' :: (Literal.chars k.toList ++ ':' :: (chars v ++ (moreFields fs ++ ['\x7d'])))

/-- The characters of values, a comma before each. -/
def moreItems : List Json → List Char
  | [] => []
  | v :: vs => ',' :: (chars v ++ moreItems vs)

/-- The characters of fields, a comma before each. -/
def moreFields : List (String × Json) → List Char
  | [] => []
  | (k, v) :: fs => ',' :: (Literal.chars k.toList ++ ':' :: (chars v ++ moreFields fs))

end

mutual

theorem toList_write : ∀ (v : Json) (out : String), (v.write out).toList = out.toList ++ chars v
  | null, out => String.toList_append
  | bool true, out => String.toList_append
  | bool false, out => String.toList_append
  | number n, out => String.toList_append
  | string s, out => Literal.toList_write out s
  | array [], out => String.toList_append
  | array (v :: vs), out => by
    rw [write, chars, String.toList_push, toList_writeItems vs, toList_write v, String.toList_push]
    simp
  | object [], out => String.toList_append
  | object ((k, v) :: fs), out => by
    rw [write, chars, String.toList_push, toList_writeFields fs, toList_write v, String.toList_push,
      Literal.toList_write, String.toList_push]
    simp

theorem toList_writeItems : ∀ (vs : List Json) (out : String),
    (writeItems vs out).toList = out.toList ++ moreItems vs
  | [], out => (List.append_nil _).symm
  | v :: vs, out => by
    rw [writeItems, moreItems, toList_writeItems vs, toList_write v, String.toList_push]
    simp

theorem toList_writeFields : ∀ (fs : List (String × Json)) (out : String),
    (writeFields fs out).toList = out.toList ++ moreFields fs
  | [], out => (List.append_nil _).symm
  | (k, v) :: fs, out => by
    rw [writeFields, moreFields, toList_writeFields fs, toList_write v, String.toList_push,
      Literal.toList_write, String.toList_push]
    simp

end

theorem toList_render (v : Json) : v.render.toList = chars v :=
  toList_write v ""

/-! ## Measures of the parts -/

theorem depth_le_of_mem_items {v : Json} {items : List Json} (h : v ∈ items) :
    v.depth ≤ depthOfItems items := by
  induction items with
  | nil => cases h
  | cons w items ih =>
    rw [depthOfItems]
    rcases List.mem_cons.1 h with rfl | h
    · exact Nat.le_max_left _ _
    · exact (ih h).trans (Nat.le_max_right _ _)

theorem depth_le_of_mem_fields {f : String × Json} {fields : List (String × Json)}
    (h : f ∈ fields) : f.2.depth ≤ depthOfFields fields := by
  induction fields with
  | nil => cases h
  | cons g fields ih =>
    rw [depthOfFields]
    rcases List.mem_cons.1 h with rfl | h
    · exact Nat.le_max_left _ _
    · exact (ih h).trans (Nat.le_max_right _ _)

theorem length_le_moreItems (vs : List Json) : vs.length ≤ (moreItems vs).length := by
  induction vs with
  | nil => exact Nat.le_refl 0
  | cons v vs ih =>
    rw [moreItems, List.length_cons, List.length_cons, List.length_append]
    omega

theorem length_le_moreFields (fs : List (String × Json)) : fs.length ≤ (moreFields fs).length := by
  induction fs with
  | nil => exact Nat.le_refl 0
  | cons f fs ih =>
    obtain ⟨k, v⟩ := f
    rw [moreFields, List.length_cons, List.length_cons, List.length_append, List.length_cons,
      List.length_append]
    omega

theorem chars_length_le_moreItems {v : Json} {vs : List Json} (h : v ∈ vs) :
    (chars v).length ≤ (moreItems vs).length := by
  induction vs with
  | nil => cases h
  | cons w vs ih =>
    rw [moreItems, List.length_cons, List.length_append]
    rcases List.mem_cons.1 h with rfl | h
    · omega
    · have := ih h
      omega

theorem chars_length_le_moreFields {f : String × Json} {fs : List (String × Json)} (h : f ∈ fs) :
    (chars f.2).length ≤ (moreFields fs).length := by
  induction fs with
  | nil => cases h
  | cons g fs ih =>
    obtain ⟨k, v⟩ := g
    rw [moreFields, List.length_cons, List.length_append, List.length_cons, List.length_append]
    rcases List.mem_cons.1 h with rfl | h
    · dsimp only
      omega
    · have := ih h
      omega

theorem chars_length_array (items : List Json) :
    (moreItems items).length + 1 ≤ (chars (array items)).length := by
  cases items with
  | nil => exact Nat.le_succ 1
  | cons v vs =>
    simp only [chars, moreItems, List.length_cons, List.length_append, List.length_nil]
    omega

theorem chars_length_object (fields : List (String × Json)) :
    (moreFields fields).length + 1 ≤ (chars (object fields)).length := by
  cases fields with
  | nil => exact Nat.le_succ 1
  | cons f fs =>
    obtain ⟨k, v⟩ := f
    simp only [chars, moreFields, List.length_cons, List.length_append, List.length_nil]
    omega

/-! ## What follows a value -/

theorem skipSpace_cons {c : Char} (hc : isSpace c = false) (s : List Char) :
    skipSpace (c :: s) = c :: s := by
  simp [skipSpace, hc]

theorem ends_moreItems (vs : List Json) (rest : List Char) : Ends (moreItems vs ++ ']' :: rest) := by
  cases vs with
  | nil => exact ends_cons (by decide)
  | cons v vs => exact ends_cons (by decide)

theorem ends_moreFields (fs : List (String × Json)) (rest : List Char) :
    Ends (moreFields fs ++ '\x7d' :: rest) := by
  cases fs with
  | nil => exact ends_cons (by decide)
  | cons f fs => exact ends_cons (by decide)

/-! ## Numbers -/

theorem head?_toString (z : Int) :
    ∃ c cs, (toString z).toList = c :: cs ∧ (c = '-' ∨ Text.isAsciiDigit c = true) := by
  rw [Numeral.toList_toString]
  by_cases hz : z < 0
  · rw [if_pos hz]
    exact ⟨'-', _, rfl, .inl rfl⟩
  · rw [if_neg hz, List.nil_append]
    cases hd : Nat.toDigits 10 z.natAbs with
    | nil =>
      obtain ⟨c, hc, _⟩ := Text.head?_toDigits z.natAbs
      rw [hd] at hc
      cases hc
    | cons c cs =>
      exact ⟨c, cs, rfl,
        .inr (Text.isAsciiDigit_of_mem_toDigits z.natAbs c (hd ▸ List.mem_cons_self))⟩

theorem ne_of_numeral {c : Char} (h : c = '-' ∨ Text.isAsciiDigit c = true) :
    isSpace c = false ∧ c ≠ '"' ∧ c ≠ '[' ∧ c ≠ ']' ∧ c ≠ '\x7b' ∧ c ≠ 't' ∧ c ≠ 'f' ∧ c ≠ 'n' := by
  rcases h with rfl | h
  · decide
  · refine ⟨?_, ?_, ?_, ?_, ?_, ?_, ?_, ?_⟩
    · simp only [isSpace, Bool.or_eq_false_iff, decide_eq_false_iff_not]
      refine ⟨⟨⟨?_, ?_⟩, ?_⟩, ?_⟩ <;> (rintro rfl; revert h; decide)
    all_goals (rintro rfl; revert h; decide)

theorem readValue_number (fuel : Nat) (nested : Option (Reading Json)) {z : Int}
    (hlow : -(2 ^ 63) ≤ z) (hhigh : z < 2 ^ 64) {rest : List Char} (h : Ends rest) :
    readValue fuel nested ((toString z).toList ++ rest) = some (number (.int z), rest) := by
  have hread := Numeral.read?_toString z h
  obtain ⟨c, cs, hcs, hc⟩ := head?_toString z
  obtain ⟨hspace, h1, h2, -, h3, h4, h5, h6⟩ := ne_of_numeral hc
  rw [hcs, List.cons_append] at hread ⊢
  rw [readValue, skipSpace_cons hspace]
  simp only [if_neg h1, if_neg h2, if_neg h3, if_neg h4, if_neg h5, if_neg h6, hread,
    Option.bind_some, Numeral.value?_ofInt hlow hhigh, Option.map_some]

theorem Plain.head {v : Json} (h : v.Plain) :
    ∃ c cs, chars v = c :: cs ∧ isSpace c = false ∧ c ≠ ']' := by
  cases h with
  | null => exact ⟨_, _, rfl, by decide⟩
  | bool b => cases b <;> exact ⟨_, _, rfl, by decide⟩
  | @number z hlow hhigh =>
    obtain ⟨c, cs, hcs, hc⟩ := head?_toString z
    have hne := ne_of_numeral hc
    exact ⟨c, cs, hcs, hne.1, hne.2.2.2.1⟩
  | string s => exact ⟨_, _, rfl, by decide⟩
  | @array items hitems => cases items <;> exact ⟨_, _, rfl, by decide⟩
  | @object fields hsorted hfields => cases fields <;> exact ⟨_, _, rfl, by decide⟩

/-! ## Arrays and objects -/

section Nested

variable {item : Reading Json}

/-- A value is read in front of everything that does not extend it. -/
def Reads (item : Reading Json) (v : Json) : Prop :=
  ∀ rest, Ends rest → item (chars v ++ rest) = some (v, rest)

theorem readItems_chars {v : Json} {vs : List Json} (hv : Reads item v)
    (hvs : ∀ w ∈ vs, Reads item w) {fuel : Nat} (hfuel : vs.length < fuel) (done : List Json)
    (rest : List Char) :
    readItems item fuel done (chars v ++ (moreItems vs ++ ']' :: rest)) =
      some (done.reverse ++ v :: vs, rest) := by
  induction vs generalizing v fuel done with
  | nil =>
    obtain ⟨fuel, rfl⟩ := Nat.exists_eq_succ_of_ne_zero (Nat.ne_of_gt hfuel)
    rw [readItems, hv _ (ends_moreItems [] rest)]
    simp only [moreItems, List.nil_append, skipSpace_cons (c := ']') (by decide)]
    rw [List.reverse_cons]
  | cons w vs ih =>
    obtain ⟨fuel, rfl⟩ := Nat.exists_eq_succ_of_ne_zero (Nat.ne_of_gt (Nat.zero_lt_of_lt hfuel))
    rw [readItems, hv _ (ends_moreItems (w :: vs) rest)]
    simp only [moreItems, List.cons_append, skipSpace_cons (c := ',') (by decide),
      List.append_assoc]
    rw [ih (hvs w List.mem_cons_self) (fun w' hw' => hvs w' (List.mem_cons_of_mem _ hw'))
      (Nat.lt_of_succ_lt_succ hfuel), List.reverse_cons, List.append_assoc]
    rfl

theorem putField_of_lt {key : String} {done : List (String × Json)} (h : ∀ f ∈ done, f.1 < key)
    (v : Json) : putField key v done = done ++ [(key, v)] := by
  induction done with
  | nil => rfl
  | cons g done ih =>
    obtain ⟨k, w⟩ := g
    have hk : k < key := h (k, w) List.mem_cons_self
    rw [putField, if_neg (lt_asymm hk), if_neg (ne_of_gt hk),
      ih fun f hf => h f (List.mem_cons_of_mem _ hf)]
    rfl

theorem readField_chars {k : String} {v : Json} (hv : Reads item v) {rest : List Char}
    (h : Ends rest) :
    readField item (Literal.chars k.toList ++ ':' :: (chars v ++ rest)) = some ((k, v), rest) := by
  rw [Literal.chars, List.cons_append, List.append_assoc, readField, skipSpace_cons (by decide)]
  simp only [List.singleton_append, Literal.read?_chars, skipSpace_cons (c := ':') (by decide),
    hv rest h, Option.map_some, String.ofList_toList]

theorem readFields_chars {k : String} {v : Json} {fs : List (String × Json)}
    (done : List (String × Json)) (hsorted : Sorted (done ++ (k, v) :: fs)) (hv : Reads item v)
    (hfs : ∀ f ∈ fs, Reads item f.2) {fuel : Nat} (hfuel : fs.length < fuel) (rest : List Char) :
    readFields item fuel done
      (Literal.chars k.toList ++ ':' :: (chars v ++ (moreFields fs ++ '\x7d' :: rest))) =
        some (done ++ (k, v) :: fs, rest) := by
  induction fs generalizing k v fuel done with
  | nil =>
    have hput := putField_of_lt (fun f hf =>
      (List.pairwise_append.1 hsorted).2.2 f hf (k, v) List.mem_cons_self) v
    obtain ⟨fuel, rfl⟩ := Nat.exists_eq_succ_of_ne_zero (Nat.ne_of_gt hfuel)
    rw [readFields, readField_chars hv (ends_moreFields [] rest)]
    simp only [moreFields, List.nil_append, skipSpace_cons (c := '\x7d') (by decide), hput]
  | cons f fs ih =>
    obtain ⟨k', w⟩ := f
    have hput := putField_of_lt (fun f hf =>
      (List.pairwise_append.1 hsorted).2.2 f hf (k, v) List.mem_cons_self) v
    obtain ⟨fuel, rfl⟩ := Nat.exists_eq_succ_of_ne_zero (Nat.ne_of_gt (Nat.zero_lt_of_lt hfuel))
    rw [readFields, readField_chars hv (ends_moreFields ((k', w) :: fs) rest)]
    simp only [moreFields, List.cons_append, skipSpace_cons (c := ',') (by decide), hput,
      List.append_assoc]
    rw [ih _ (by rwa [List.append_assoc]) (hfs (k', w) List.mem_cons_self)
      (fun f hf => hfs f (List.mem_cons_of_mem _ hf)) (Nat.lt_of_succ_lt_succ hfuel),
      List.append_assoc]
    rfl

end Nested

/-! ## Values -/

theorem readNested_eq (fuel depth : Nat) :
    ∃ nested, readNested fuel depth = readValue fuel nested := by
  cases depth with
  | zero => exact ⟨none, rfl⟩
  | succ depth => exact ⟨some (readNested fuel depth), rfl⟩

theorem reads_null (fuel : Nat) (nested : Option (Reading Json)) : Reads (readValue fuel nested) null :=
  fun _ _ => by simp [chars, readValue, skipSpace_cons, isSpace, afterWord?]

theorem reads_bool (fuel : Nat) (nested : Option (Reading Json)) (b : Bool) :
    Reads (readValue fuel nested) (bool b) := fun _ _ => by
  cases b <;> simp [chars, readValue, skipSpace_cons, isSpace, afterWord?]

theorem reads_string (fuel : Nat) (nested : Option (Reading Json)) (s : String) :
    Reads (readValue fuel nested) (string s) := fun rest _ => by
  rw [chars, Literal.chars, List.cons_append, List.append_assoc, readValue,
    skipSpace_cons (by decide)]
  simp only [if_true, List.singleton_append, Literal.read?_chars, Option.map_some,
    String.ofList_toList]

/-- An array is read when its items are, with fuel for each of them. -/
theorem reads_array {fuel : Nat} {item : Reading Json} {items : List Json}
    (hplain : ∀ v ∈ items, Plain v) (hitems : ∀ v ∈ items, Reads item v)
    (hfuel : items.length ≤ fuel) : Reads (readValue fuel (some item)) (array items) := by
  intro rest _
  cases items with
  | nil => simp [chars, readValue, skipSpace_cons, isSpace, readArray]
  | cons v vs =>
    obtain ⟨c, cs, hcs, hspace, hne⟩ := (hplain v List.mem_cons_self).head
    have hread := readItems_chars (hitems v List.mem_cons_self)
      (fun w hw => hitems w (List.mem_cons_of_mem _ hw)) hfuel [] rest
    rw [chars, List.cons_append, readValue, skipSpace_cons (by decide)]
    simp only [if_neg (show ¬ '[' = '"' by decide), if_true, Option.bind_some, List.append_assoc,
      List.singleton_append]
    rw [hcs, List.cons_append] at hread ⊢
    rw [readArray, skipSpace_cons hspace]
    split
    · next heq => exact absurd (List.cons.inj heq).1 hne
    · rw [hread]
      rfl

/-- An object is read when the values of its fields are, with fuel for each of them. -/
theorem reads_object {fuel : Nat} {item : Reading Json} {fields : List (String × Json)}
    (hsorted : Sorted fields) (hfields : ∀ f ∈ fields, Reads item f.2)
    (hfuel : fields.length ≤ fuel) : Reads (readValue fuel (some item)) (object fields) := by
  intro rest _
  cases fields with
  | nil => simp [chars, readValue, skipSpace_cons, isSpace, readObject]
  | cons f fs =>
    obtain ⟨k, v⟩ := f
    have hread := readFields_chars [] hsorted (hfields (k, v) List.mem_cons_self)
      (fun g hg => hfields g (List.mem_cons_of_mem _ hg)) hfuel rest
    rw [chars, List.cons_append, readValue, skipSpace_cons (by decide)]
    simp only [if_neg (show ¬ '\x7b' = '"' by decide), if_neg (show ¬ '\x7b' = '[' by decide),
      if_true, Option.bind_some, List.append_assoc, List.cons_append, List.nil_append]
    rw [Literal.chars, List.cons_append] at hread ⊢
    rw [readObject, skipSpace_cons (by decide)]
    split
    · next heq => exact absurd (List.cons.inj heq).1 (by decide)
    · rw [hread]
      rfl

/-- A value at the start of a text. The fuel is enough for the items of every array in it. -/
theorem Plain.reads {v : Json} (h : v.Plain) {depth fuel : Nat} (hdepth : v.depth ≤ depth)
    (hfuel : (chars v).length ≤ fuel) : Reads (readNested fuel depth) v := by
  induction h generalizing depth with
  | null =>
    obtain ⟨nested, hn⟩ := readNested_eq fuel depth
    exact hn ▸ reads_null fuel nested
  | bool b =>
    obtain ⟨nested, hn⟩ := readNested_eq fuel depth
    exact hn ▸ reads_bool fuel nested b
  | number hlow hhigh =>
    obtain ⟨nested, hn⟩ := readNested_eq fuel depth
    exact hn ▸ fun rest hrest => readValue_number fuel nested hlow hhigh hrest
  | string s =>
    obtain ⟨nested, hn⟩ := readNested_eq fuel depth
    exact hn ▸ reads_string fuel nested s
  | @array items hitems ih =>
    obtain ⟨depth, rfl⟩ := Nat.exists_eq_succ_of_ne_zero (Nat.ne_of_gt (Nat.zero_lt_of_lt hdepth))
    have hdepth := Nat.le_of_succ_le_succ hdepth
    have hlen := chars_length_array items
    refine reads_array hitems (fun w hw => ih w hw ?_ ?_) ?_
    · exact (depth_le_of_mem_items hw).trans hdepth
    · have := chars_length_le_moreItems hw
      omega
    · have := length_le_moreItems items
      omega
  | @object fields hsorted hfields ih =>
    obtain ⟨depth, rfl⟩ := Nat.exists_eq_succ_of_ne_zero (Nat.ne_of_gt (Nat.zero_lt_of_lt hdepth))
    have hdepth := Nat.le_of_succ_le_succ hdepth
    have hlen := chars_length_object fields
    refine reads_object hsorted (fun f hf => ih f hf ?_ ?_) ?_
    · exact (depth_le_of_mem_fields hf).trans hdepth
    · have := chars_length_le_moreFields hf
      omega
    · have := length_le_moreFields fields
      omega

/-- **A text that has been written is read back.** -/
theorem parse?_render {v : Json} (h : v.Plain) (hdepth : v.depth ≤ maxDepth) :
    parse? v.render.toList = some v := by
  have hread := h.reads hdepth (Nat.le_succ (chars v).length) [] ends_nil
  rw [List.append_nil] at hread
  rw [toList_render, parse?, hread]
  rfl

/-- **The bytes of a text that has been written are read back.** -/
theorem ofBytes?_render {v : Json} (h : v.Plain) (hdepth : v.depth ≤ maxDepth) :
    ofBytes? (Text.Utf8.encode v.render.toList) = some v := by
  rw [ofBytes?, Text.Utf8.decode?_encode, Option.bind_some, parse?_render h hdepth]

end LintServer.Json
