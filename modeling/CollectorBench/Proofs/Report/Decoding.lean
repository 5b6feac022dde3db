import CollectorBench.Proofs.Report.Decoder
import Mathlib.Data.List.Forall2
import Mathlib.Data.List.TakeWhile

/-! Decoding undoes writing.
A written string is read back character by character, whatever stands behind it. A document is nested,
so the main induction says of every part of it that it is taken out of the text that it stands in, with
blanks before it and anything behind it that does not continue a number. What a whole document says is
then what is decoded from its text. -/
namespace CollectorBench.Json
open Number Text

section Strings

theorem hexValue?_hexDigit (n : Nat) : hexValue? (hexDigit n) = some (n % 16) := by
  have all : ∀ digit < 16, hexValue? (Nat.digitChar digit) = some digit := by decide
  exact all _ (Nat.mod_lt n (by decide))

private theorem readParts_escape {letter c : Char} (known : escapes.lookup letter = some c)
    (rest : List Char) : readParts ('\\' :: letter :: rest) =
      (readParts rest).map fun (later,rest) => (.character c :: later,rest) := by
  have notUnit : letter ≠ 'u' := by
    rintro rfl
    have unknown : escapes.lookup 'u' = none := by decide
    rw [unknown] at known
    cases known
  rw [readParts,known]
  · cases readParts rest <;> rfl
  · intro _ _ _ _ _ same
    exact absurd same notUnit

private theorem readParts_unit {a b c d : Char} {n : Nat} (known : unit? a b c d = some n)
    (rest : List Char) : readParts ('\\' :: 'u' :: a :: b :: c :: d :: rest) =
      (readParts rest).map fun (later,rest) => (.unit n :: later,rest) := by
  rw [readParts,known]
  cases readParts rest <;> rfl

private theorem readParts_plain {c : Char} (notQuote : c ≠ '"') (notSlash : c ≠ '\\')
    (printed : ¬c.toNat < 32) (rest : List Char) : readParts (c :: rest) =
      (readParts rest).map fun (later,rest) => (.character c :: later,rest) := by
  rw [readParts,if_neg (by simp [notSlash,printed])]
  · cases readParts rest <;> rfl
  · exact notQuote
  · intro _ _ _ _ _ same
    exact absurd same notSlash
  · intro _ _ same
    exact absurd same notSlash

/-- An escaped character is a short escape, a number or the character itself. -/
theorem escaped_shape (c : Char) :
    (∃ letter, escapes.lookup letter = some c ∧ escaped c = ['\\',letter]) ∨
      (c.toNat < 32 ∧
        escaped c = ['\\','u','0','0',hexDigit (c.toNat / 16),hexDigit c.toNat]) ∨
      (c ≠ '"' ∧ c ≠ '\\' ∧ ¬c.toNat < 32 ∧ escaped c = [c]) := by
  unfold escaped
  split
  · next same => exact .inl ⟨'"',by rw [same]; rfl,rfl⟩
  split
  · next same => exact .inl ⟨'\\',by rw [same]; rfl,rfl⟩
  split
  · next same => exact .inl ⟨'b',by rw [same]; rfl,rfl⟩
  split
  · next same => exact .inl ⟨'f',by rw [same]; rfl,rfl⟩
  split
  · next same => exact .inl ⟨'n',by rw [same]; rfl,rfl⟩
  split
  · next same => exact .inl ⟨'r',by rw [same]; rfl,rfl⟩
  split
  · next same => exact .inl ⟨'t',by rw [same]; rfl,rfl⟩
  split
  · next control => exact .inr (.inl ⟨control,rfl⟩)
  · next notQuote notSlash _ _ _ _ _ printed =>
    exact .inr (.inr ⟨notQuote,notSlash,printed,rfl⟩)

/-- An escaped character is read as one part, which is that character. -/
theorem exists_part (c : Char) : ∃ part,
    (∀ rest, readParts (escaped c ++ rest) =
      (readParts rest).map fun (later,rest) => (part :: later,rest)) ∧
    ∀ later, characters (part :: later) = (characters later).map (c :: ·) := by
  obtain ⟨letter,known,shape⟩ | ⟨control,shape⟩ | ⟨notQuote,notSlash,printed,shape⟩ := escaped_shape c
  · exact ⟨.character c,fun rest => shape ▸ readParts_escape known rest,fun _ => rfl⟩
  · have known : unit? '0' '0' (hexDigit (c.toNat / 16)) (hexDigit c.toNat) = some c.toNat := by
      have zero : hexValue? '0' = some 0 := by decide
      simp only [unit?,zero,hexValue?_hexDigit,Option.bind_eq_bind,Option.bind_some]
      congr 1
      omega
    refine ⟨.unit c.toNat,fun rest => shape ▸ readParts_unit known rest,fun later => ?_⟩
    have whole : c.toNat < 0xD800 ∨ 0xDFFF < c.toNat := .inl (by omega)
    rw [characters.eq_def]
    simp only [if_pos whole,Char.ofNat_toNat]
  · exact ⟨.character c,fun rest => shape ▸ readParts_plain notQuote notSlash printed rest,
      fun _ => rfl⟩

theorem readParts_flatMap (chars rest : List Char) : ∃ parts,
    readParts (chars.flatMap escaped ++ '"' :: rest) = some (parts,rest) ∧
      characters parts = some chars := by
  induction chars with
  | nil => exact ⟨[],by simp [readParts],rfl⟩
  | cons c later ih =>
    obtain ⟨parts,read,spelled⟩ := ih
    obtain ⟨part,first,spells⟩ := exists_part c
    refine ⟨part :: parts,?_,?_⟩
    · rw [List.flatMap_cons,List.append_assoc,first,read]
      rfl
    · rw [spells,spelled]
      rfl

/-- A written string is read back, whatever stands behind it. -/
theorem readString_flatMap (text : String) (rest : List Char) :
    readString (text.toList.flatMap escaped ++ '"' :: rest) = some (text,rest) := by
  obtain ⟨parts,read,spelled⟩ := readParts_flatMap text.toList rest
  simp [readString,read,spelled]

end Strings

/-- The longest front of characters that pass a test ends before the first one that does not. -/
theorem span_append {test : Char → Bool} {front rest : List Char} (passes : ∀ c ∈ front, test c = true)
    (stops : ∀ c ∈ rest.head?, test c = false) :
    (front ++ rest).takeWhile test = front ∧ (front ++ rest).dropWhile test = rest := by
  rw [List.takeWhile_append_of_pos passes,List.dropWhile_append_of_pos passes]
  cases rest with
  | nil => simp
  | cons c more => simp [stops c rfl]

theorem next?_blanks {blanks : List Char} (blank : ∀ c ∈ blanks, isSpace c = true)
    (text : List Char) : next? (blanks ++ text) = next? text := by
  rw [next?,List.dropWhile_append_of_pos blank]
  rfl

theorem next?_cons {c : Char} (solid : isSpace c = false) (rest : List Char) :
    next? (c :: rest) = some (c,rest) := by
  simp [next?,solid]

theorem isSpace_indent (depth : Nat) : ∀ c ∈ indent depth, isSpace c = true := by
  intro c member
  rcases List.mem_cons.mp member with rfl | inside
  · decide
  · rw [List.eq_of_mem_replicate inside]
    decide

/-- A reader takes a text out of any other, whatever blanks stand before it, unless what stands behind
it would continue a number. The text does not begin as what closes a list or an object does. -/
structure Reads {α : Type} (read : List Char → Option (α × List Char)) (text : List Char)
    (value : α) : Prop where
  begins : ∃ c rest, text = c :: rest ∧ isSpace c = false ∧ c ≠ ']' ∧ c ≠ '\x7d'
  takes : ∀ blanks rest, (∀ c ∈ blanks, isSpace c = true) →
    (∀ c ∈ rest.head?, isNumberChar c = false) →
      read (blanks ++ (text ++ rest)) = some (value,rest)

section Nesting

/-- What stands behind the first item: the later ones, the closing character and the rest. -/
def behind (depth : Nat) (closing : Char) (rest : List Char) : List (List Char) → List Char
  | [] => indent depth ++ closing :: rest
  | item :: later => ',' :: (indent (depth + 1) ++ (item ++ behind depth closing rest later))

theorem enclosed_cons_append (depth : Nat) (opening closing : Char) (first : List Char)
    (later : List (List Char)) (rest : List Char) :
    enclosed depth opening closing (first :: later) ++ rest =
      opening :: (indent (depth + 1) ++ (first ++ behind depth closing rest later)) := by
  have tail : (later.flatMap fun item => ',' :: (indent (depth + 1) ++ item)) ++
      (indent depth ++ closing :: rest) = behind depth closing rest later := by
    induction later with
    | nil => rfl
    | cons item more ih => simp [behind,← ih]
  simp [enclosed,← tail]

theorem exists_enclosed_eq (depth : Nat) (opening closing : Char) (items : List (List Char)) :
    ∃ front, enclosed depth opening closing items = opening :: front := by
  cases items with
  | nil => exact ⟨_,rfl⟩
  | cons first later => exact ⟨_,rfl⟩

theorem length_le_behind (depth : Nat) (closing : Char) (rest : List Char)
    (later : List (List Char)) : later.length ≤ (behind depth closing rest later).length := by
  induction later with
  | nil => simp
  | cons item more ih =>
    simp only [behind,List.length_cons,List.length_append]
    omega

/-- An item is shorter than what encloses it. -/
theorem length_lt_enclosed {depth : Nat} {opening closing : Char} {items : List (List Char)}
    {item : List Char} (member : item ∈ items) :
    item.length < (enclosed depth opening closing items).length := by
  cases items with
  | nil => cases member
  | cons first later =>
    simp only [enclosed,List.length_cons,List.length_append]
    rcases List.mem_cons.mp member with rfl | inside
    · omega
    · let separated := fun item => ',' :: (indent (depth + 1) ++ item)
      have short := (List.sublist_flatten_of_mem (List.mem_map_of_mem (f := separated) inside)).length_le
      simp only [separated,List.flatMap,List.length_cons,List.length_append] at short ⊢
      omega

section
variable {α : Type} {read : List Char → Option (α × List Char)} {closing : Char} {depth : Nat}
  {rest : List Char}

theorem head_behind (later : List (List Char)) :
    ∀ c ∈ (behind depth closing rest later).head?, isNumberChar c = false := by
  cases later <;> simp [behind,indent] <;> decide

theorem readSeparated_behind (solid : isSpace closing = false) (noComma : closing ≠ ',')
    {first : List Char} {value : α} (head : Reads read first value) {later : List (List Char)}
    {values : List α} (tail : List.Forall₂ (Reads read) later values) {steps : Nat}
    (enough : later.length < steps) :
    readSeparated read closing steps
        (indent (depth + 1) ++ (first ++ behind depth closing rest later)) =
      some (value :: values,rest) := by
  induction tail generalizing first value steps with
  | nil =>
    obtain ⟨steps,rfl⟩ := Nat.exists_eq_succ_of_ne_zero (Nat.ne_zero_of_lt enough)
    rw [readSeparated,head.takes _ _ (isSpace_indent _) (head_behind _)]
    simp [behind,next?_blanks (isSpace_indent _),next?_cons solid]
  | cons second others ih =>
    obtain ⟨steps,rfl⟩ := Nat.exists_eq_succ_of_ne_zero (Nat.ne_zero_of_lt enough)
    have more := ih second (Nat.lt_of_succ_lt_succ enough)
    have comma : isSpace ',' = false := by decide
    rw [readSeparated,head.takes _ _ (isSpace_indent _) (head_behind _)]
    simp [behind,next?_cons comma,Ne.symm noComma,more]

theorem readEnclosed_enclosed (closes : closing = ']' ∨ closing = '\x7d') (opening : Char)
    {texts : List (List Char)} {values : List α} (each : List.Forall₂ (Reads read) texts values) :
    ∃ body, enclosed depth opening closing texts ++ rest = opening :: body ∧
      readEnclosed read closing body = some (values,rest) := by
  have solid : isSpace closing = false := by
    rcases closes with rfl | rfl <;> decide
  have noComma : closing ≠ ',' := by
    rcases closes with rfl | rfl <;> decide
  cases each with
  | nil => exact ⟨closing :: rest,rfl,by simp [readEnclosed,next?_cons solid]⟩
  | @cons first value later values head tail =>
    refine ⟨_,enclosed_cons_append depth opening closing first later rest,?_⟩
    obtain ⟨c,more,rfl,visible,noBracket,noBrace⟩ := head.begins
    have filled : c ≠ closing := by
      rcases closes with rfl | rfl
      · exact noBracket
      · exact noBrace
    have short := length_le_behind depth closing rest later
    have separated := @readSeparated_behind _ _ _ depth rest solid noComma _ _ head _ _ tail
      (indent (depth + 1) ++ (c :: more ++ behind depth closing rest later)).length
      (by simp only [List.length_append,List.length_cons]; omega)
    rw [readEnclosed,next?_blanks (isSpace_indent _),List.cons_append,next?_cons visible]
    simpa [filled] using separated

end

end Nesting

section Words

theorem readWord_null (rest : List Char) :
    readWord ('n' :: 'u' :: 'l' :: 'l' :: rest) = some (.null,rest) := by
  simp [readWord,words,after?]

theorem ne_of_isNumberChar {c mark : Char} (numeric : isNumberChar c = true)
    (other : isNumberChar mark = false) : c ≠ mark := by
  rintro rfl
  rw [numeric] at other
  cases other

theorem readWord_eq_none {c : Char} (numeric : isNumberChar c = true) (rest : List Char) :
    readWord (c :: rest) = none := by
  have notN : c ≠ 'n' := ne_of_isNumberChar numeric (by decide)
  have notT : c ≠ 't' := ne_of_isNumberChar numeric (by decide)
  have notF : c ≠ 'f' := ne_of_isNumberChar numeric (by decide)
  simp [readWord,words,after?,Ne.symm notN,Ne.symm notT,Ne.symm notF]

section
variable {text : List Char} {value : Rat}

theorem numeric_of_readNumber (whole : readNumber text = some (value,[])) :
    number? text = some value ∧ ∀ c ∈ text, isNumberChar c = true := by
  obtain ⟨read,found,parts⟩ := Option.map_eq_some_iff.mp whole
  obtain ⟨rfl,nothing⟩ := Prod.mk.inj parts
  have numeric := List.dropWhile_eq_nil_iff.mp nothing
  have taken : text.takeWhile isNumberChar = text := List.takeWhile_eq_self_iff.mpr numeric
  rw [taken] at found
  exact ⟨found,numeric⟩

theorem exists_cons_of_readNumber (whole : readNumber text = some (value,[])) :
    ∃ c rest, text = c :: rest ∧ isNumberChar c = true := by
  obtain ⟨found,numeric⟩ := numeric_of_readNumber whole
  cases text with
  | nil => cases found
  | cons c rest => exact ⟨c,rest,rfl,numeric c (by simp)⟩

/-- A text that is a number is all taken, and nothing of what stands behind it. -/
theorem readNumber_append (whole : readNumber text = some (value,[])) {rest : List Char}
    (ends : ∀ c ∈ rest.head?, isNumberChar c = false) :
    readNumber (text ++ rest) = some (value,rest) := by
  obtain ⟨found,numeric⟩ := numeric_of_readNumber whole
  obtain ⟨taken,left⟩ := span_append numeric ends
  rw [readNumber,taken,left,found]
  rfl

end

end Words

mutual

/-- What a document says; nothing if the text of one of its numbers is none. -/
def value? : Json → Option Value
  | null => some .null
  | number text =>
    match readNumber text with
    | some (value,[]) => some (.number value)
    | _ => none
  | string text => some (.string text)
  | list items => (itemValues? items).map .list
  | object members => (memberValues? members).map .object

def itemValues? : List Json → Option (List Value)
  | [] => some []
  | item :: later => do
    let value ← value? item
    let values ← itemValues? later
    some (value :: values)

def memberValues? : List (String × Json) → Option (List (String × Value))
  | [] => some []
  | (key,document) :: later => do
    let value ← value? document
    let values ← memberValues? later
    some ((key,value) :: values)

end

theorem reads_stringText (levels : Nat) (text : String) :
    Reads (readValue (levels + 1)) (stringText text) (.string text) := by
  refine ⟨⟨'"',_,rfl,by decide,by decide,by decide⟩,fun blanks rest blank _ => ?_⟩
  have solid : isSpace '"' = false := by decide
  rw [readValue,next?_blanks blank,stringText,List.cons_append,next?_cons solid]
  simp [readString_flatMap]

theorem reads_number (levels : Nat) {text : List Char} {value : Rat}
    (whole : readNumber text = some (value,[])) :
    Reads (readValue (levels + 1)) text (.number value) := by
  obtain ⟨c,more,rfl,numeric⟩ := exists_cons_of_readNumber whole
  have differs (mark : Char) (other : isNumberChar mark = false) : c ≠ mark :=
    ne_of_isNumberChar numeric other
  have solid : isSpace c = false := by
    simp [isSpace,differs ' ' (by decide),differs '\t' (by decide),differs '\n' (by decide),
      differs '\r' (by decide)]
  refine ⟨⟨c,more,rfl,solid,differs ']' (by decide),differs '\x7d' (by decide)⟩,
    fun blanks rest blank ends => ?_⟩
  have read := readNumber_append whole ends
  have notQuote := differs '"' (by decide)
  have notBracket := differs '[' (by decide)
  have notBrace := differs '\x7b' (by decide)
  rw [List.cons_append] at read ⊢
  rw [readValue,next?_blanks blank,next?_cons solid]
  simp [notQuote,notBracket,notBrace,readWord_eq_none numeric,read]

theorem reads_null (levels : Nat) : Reads (readValue (levels + 1)) "null".toList .null := by
  have word : "null".toList = ['n','u','l','l'] := rfl
  refine ⟨⟨'n',_,word,by decide,by decide,by decide⟩,fun blanks rest blank _ => ?_⟩
  have solid : isSpace 'n' = false := by decide
  rw [word,List.cons_append,readValue,next?_blanks blank,next?_cons solid]
  simp [readWord_null]

theorem reads_member {read : List Char → Option (Value × List Char)} {text : List Char}
    {value : Value} (key : String) (reads : Reads read text value) :
    Reads (readMember read) (stringText key ++ ": ".toList ++ text) (key,value) := by
  have mark : ": ".toList = [':',' '] := rfl
  refine ⟨⟨'"',_,rfl,by decide,by decide,by decide⟩,fun blanks rest blank ends => ?_⟩
  have quote : isSpace '"' = false := by decide
  have colon : isSpace ':' = false := by decide
  have taken : read (' ' :: (text ++ rest)) = some (value,rest) :=
    reads.takes [' '] rest (by simp [isSpace]) ends
  have shape : stringText key ++ ": ".toList ++ text ++ rest =
      '"' :: (key.toList.flatMap escaped ++ '"' :: ':' :: ' ' :: (text ++ rest)) := by
    simp [stringText,mark]
  rw [shape,readMember,next?_blanks blank,next?_cons quote]
  simp only [Option.bind_eq_bind,Option.bind_some,readString_flatMap]
  rw [next?_cons colon]
  simp [taken]

theorem number_of_value? {text : List Char} {value : Value}
    (valued : (number text).value? = some value) :
    ∃ read, readNumber text = some (read,[]) ∧ value = .number read := by
  unfold value? at valued
  split at valued
  · next read whole => exact ⟨read,whole,(Option.some.inj valued).symm⟩
  · cases valued

section
variable {levels depth : Nat}

theorem reads_list {texts : List (List Char)} {values : List Value}
    (each : List.Forall₂ (Reads (readValue levels)) texts values) :
    Reads (readValue (levels + 1)) (enclosed depth '[' ']' texts) (.list values) := by
  obtain ⟨front,begins⟩ := exists_enclosed_eq depth '[' ']' texts
  refine ⟨⟨'[',front,begins,by decide,by decide,by decide⟩,fun blanks rest blank _ => ?_⟩
  obtain ⟨body,shape,read⟩ := @readEnclosed_enclosed _ _ ']' depth rest (.inl rfl) '[' _ _ each
  have solid : isSpace '[' = false := by decide
  rw [readValue,next?_blanks blank,shape,next?_cons solid]
  simp [read]

theorem reads_object {texts : List (List Char)} {values : List (String × Value)}
    (each : List.Forall₂ (Reads (readMember (readValue levels))) texts values) :
    Reads (readValue (levels + 1)) (enclosed depth '\x7b' '\x7d' texts) (.object values) := by
  obtain ⟨front,begins⟩ := exists_enclosed_eq depth '\x7b' '\x7d' texts
  refine ⟨⟨'\x7b',front,begins,by decide,by decide,by decide⟩,fun blanks rest blank _ => ?_⟩
  obtain ⟨body,shape,read⟩ :=
    @readEnclosed_enclosed _ _ '\x7d' depth rest (.inr rfl) '\x7b' _ _ each
  have solid : isSpace '\x7b' = false := by decide
  rw [readValue,next?_blanks blank,shape,next?_cons solid]
  simp [read]

/-- One level less is enough for what stands in a list or an object. -/
theorem exists_fewer_levels {opening closing : Char} {texts : List (List Char)}
    (deep : (enclosed depth opening closing texts).length ≤ levels) :
    ∃ fewer, levels = fewer + 1 ∧ ∀ text ∈ texts, text.length ≤ fewer := by
  obtain ⟨front,begins⟩ := exists_enclosed_eq depth opening closing texts
  have some : levels ≠ 0 := by
    rintro rfl
    rw [begins] at deep
    cases deep
  obtain ⟨fewer,rfl⟩ := Nat.exists_eq_succ_of_ne_zero some
  exact ⟨fewer,rfl,fun text member =>
    Nat.le_of_lt_succ (Nat.lt_of_lt_of_le (length_lt_enclosed member) deep)⟩

end

mutual

/-- Every document is taken out of its text; the recursion is that of the text. -/
theorem reads_textAt (depth levels : Nat) : ∀ (document : Json) (value : Value),
    document.value? = some value → (textAt depth document).length ≤ levels →
      Reads (readValue (levels + 1)) (textAt depth document) value
  | null, value, valued, _ => by
    obtain rfl := Option.some.inj valued
    exact reads_null levels
  | number text, value, valued, _ => by
    obtain ⟨read,whole,rfl⟩ := number_of_value? valued
    exact reads_number levels whole
  | string text, value, valued, _ => by
    obtain rfl := Option.some.inj valued
    exact reads_stringText levels text
  | list items, value, valued, deep => by
    obtain ⟨values,each,rfl⟩ := Option.map_eq_some_iff.mp valued
    obtain ⟨fewer,rfl,short⟩ := exists_fewer_levels deep
    exact reads_list (reads_itemTexts (depth + 1) fewer items values each short)
  | object members, value, valued, deep => by
    obtain ⟨values,each,rfl⟩ := Option.map_eq_some_iff.mp valued
    obtain ⟨fewer,rfl,short⟩ := exists_fewer_levels deep
    exact reads_object (reads_memberTexts (depth + 1) fewer members values each short)

theorem reads_itemTexts (depth levels : Nat) : ∀ (items : List Json) (values : List Value),
    itemValues? items = some values → (∀ text ∈ itemTexts depth items, text.length ≤ levels) →
      List.Forall₂ (Reads (readValue (levels + 1))) (itemTexts depth items) values
  | [], values, valued, _ => by
    obtain rfl := Option.some.inj valued
    exact .nil
  | item :: later, values, valued, deep => by
    obtain ⟨value,first,valued⟩ := Option.bind_eq_some_iff.mp valued
    obtain ⟨others,rest,same⟩ := Option.bind_eq_some_iff.mp valued
    obtain rfl := Option.some.inj same
    simp only [itemTexts,List.forall_mem_cons] at deep
    exact .cons (reads_textAt depth levels item value first deep.1)
      (reads_itemTexts depth levels later others rest deep.2)

theorem reads_memberTexts (depth levels : Nat) :
    ∀ (members : List (String × Json)) (values : List (String × Value)),
      memberValues? members = some values →
      (∀ text ∈ memberTexts depth members, text.length ≤ levels) →
        List.Forall₂ (Reads (readMember (readValue (levels + 1)))) (memberTexts depth members) values
  | [], values, valued, _ => by
    obtain rfl := Option.some.inj valued
    exact .nil
  | (key,document) :: later, values, valued, deep => by
    obtain ⟨value,first,valued⟩ := Option.bind_eq_some_iff.mp valued
    obtain ⟨others,rest,same⟩ := Option.bind_eq_some_iff.mp valued
    obtain rfl := Option.some.inj same
    simp only [memberTexts,List.forall_mem_cons] at deep
    have short : (textAt depth document).length ≤ levels := by
      have whole := deep.1
      rw [List.length_append] at whole
      omega
    exact .cons (reads_member key (reads_textAt depth levels document value first short))
      (reads_memberTexts depth levels later others rest deep.2)

end

/-- The text of a document is decoded to what the document says. -/
theorem decode?_text {document : Json} {value : Value} (valued : document.value? = some value) :
    decode? document.text = some value := by
  have reads := reads_textAt 0 (textAt 0 document).length document value valued (Nat.le_refl _)
  have taken := reads.takes [] [] (by simp) (by simp)
  rw [List.nil_append,List.append_nil] at taken
  rw [decode?,text,String.toList_ofList,taken]
  rfl

end CollectorBench.Json
