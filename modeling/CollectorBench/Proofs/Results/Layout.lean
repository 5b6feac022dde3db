import CollectorBench.Proofs.Results.Contents

/-! What does not count in a result file.
Reading sees the significant lines of a file and nothing else, except that a line which cannot be read
is told with its number. So the way in which lines are ended, blanks around them, empty lines and
headers change no results. -/
namespace CollectorBench
open Text

/-- What counts of a line: nothing of a blank one or a header, and of any other what is between the
blanks at its ends. -/
def significantPart (line : List Char) : List (List Char) :=
  if trim line = [] ∨ "run,".toList <+: trim line then [] else [trim line]

/-- The lines of a text that count. -/
def significantLines (text : String) : List (List Char) :=
  (fields '\n' text.toList).flatMap significantPart

/-- Lines with a line feed between each two. -/
def joinLines (lines : List (List Char)) : String :=
  String.ofList (['\n'].intercalate lines)

/-- The text with a carriage return in front of each line feed. -/
def withCarriageReturns (text : String) : String :=
  String.ofList (text.toList.flatMap fun c => if c = '\n' then ['\r','\n'] else [c])

/-- A line of a file with blanks around it. -/
inductive Padded : List Char → List Char → Prop
  | mk {before line after : List Char} (inside : '\n' ∉ line)
    (front : ∀ c ∈ before, isBlank c = true ∧ c ≠ '\n')
    (back : ∀ c ∈ after, isBlank c = true ∧ c ≠ '\n') : Padded line (before ++ line ++ after)

/-- Two ends of reading that differ at most in the line that is told. -/
inductive SameButLine : Except Failure ResultSet → Except Failure ResultSet → Prop
  | read (results : ResultSet) : SameButLine (.ok results) (.ok results)
  | failed (path : String) (first second : Nat) (field value : String) :
    SameButLine (.error (.malformedValue path first field value))
      (.error (.malformedValue path second field value))

section Lines

theorem isIdle_trim_iff (line : List Char) :
    isIdle (trim line) = true ↔ significantPart line = [] := by
  unfold isIdle significantPart
  rw [Bool.or_eq_true,List.isEmpty_iff,List.isPrefixOf_iff_prefix]
  split
  · next idle => exact iff_of_true idle rfl
  · next busy => exact iff_of_false busy (List.cons_ne_nil _ _)

theorem significantPart_of_busy {line : List Char} (busy : significantPart line ≠ []) :
    significantPart line = [trim line] := by
  unfold significantPart at busy ⊢
  split
  · next idle => exact absurd (if_pos idle) busy
  · rfl

theorem significantPart_nil : significantPart [] = [] :=
  if_pos (.inl rfl)

theorem Padded.significantPart_eq {line longer : List Char} (padded : Padded line longer) :
    significantPart longer = significantPart line := by
  obtain ⟨_,front,back⟩ := padded
  have same := trim_padded (fun c member => (front c member).1) (fun c member => (back c member).1) line
  unfold significantPart
  rw [same]

/-- Neither lines nor lines with blanks around them hold a line feed. -/
theorem not_mem_of_padded {lines padded : List (List Char)} (each : List.Forall₂ Padded lines padded) :
    (∀ line ∈ lines, '\n' ∉ line) ∧ ∀ line ∈ padded, '\n' ∉ line := by
  induction each with
  | nil => exact ⟨by simp,by simp⟩
  | cons first _ ih =>
    obtain ⟨inside,front,back⟩ := first
    refine ⟨List.forall_mem_cons.mpr ⟨inside,ih.1⟩,List.forall_mem_cons.mpr ⟨?_,ih.2⟩⟩
    intro member
    rcases List.mem_append.mp member with earlier | behind
    · rcases List.mem_append.mp earlier with before | within
      · exact (front _ before).2 rfl
      · exact inside within
    · exact (back _ behind).2 rfl

theorem significantLines_append (front back : List Char) :
    significantLines (String.ofList (front ++ '\n' :: back)) =
      significantLines (String.ofList front) ++ significantLines (String.ofList back) := by
  simp only [significantLines,String.toList_ofList,fields_append_separator,List.flatMap_append]

theorem significantLines_of_not_mem {line : List Char} (inside : '\n' ∉ line) :
    significantLines (String.ofList line) = significantPart line := by
  rw [significantLines,String.toList_ofList,fields_of_not_mem inside,List.flatMap_singleton]

theorem significantLines_joinLines {lines : List (List Char)} (inside : ∀ line ∈ lines, '\n' ∉ line) :
    significantLines (joinLines lines) = lines.flatMap significantPart := by
  cases lines with
  | nil => exact significantLines_of_not_mem List.not_mem_nil
  | cons first later =>
    rw [significantLines,joinLines,String.toList_ofList,fields_intercalate '\n' first later inside]

/-- A carriage return in front of a line feed is the end of a line. -/
private theorem fields_withReturns (text : List Char) :
    List.Forall₂ (fun line longer => longer = line ∨ longer = line ++ ['\r']) (fields '\n' text)
      (fields '\n' (text.flatMap fun c => if c = '\n' then ['\r','\n'] else [c])) := by
  induction text with
  | nil => exact .cons (.inl rfl) .nil
  | cons c rest ih =>
    rw [List.flatMap_cons]
    by_cases feed : c = '\n'
    · rw [if_pos feed,feed]
      exact .cons (.inr rfl) ih
    · obtain ⟨line,lines,shape⟩ := List.exists_cons_of_ne_nil (fields_ne_nil '\n' rest)
      rw [shape] at ih
      obtain ⟨longer,others,first,later,ended⟩ := List.forall₂_cons_left_iff.mp ih
      rw [if_neg feed,List.singleton_append]
      simp only [fields,if_neg feed,shape,ended]
      refine .cons ?_ later
      rcases first with rfl | rfl
      · exact .inl rfl
      · exact .inr rfl

theorem significantLines_withCarriageReturns (text : String) :
    significantLines (withCarriageReturns text) = significantLines text := by
  rw [significantLines,withCarriageReturns,String.toList_ofList,significantLines]
  have each := fields_withReturns text.toList
  generalize fields '\n' text.toList = lines at each ⊢
  generalize fields '\n' (text.toList.flatMap _) = ended at each ⊢
  induction each with
  | nil => rfl
  | @cons line longer _ _ first _ ih =>
    have same : significantPart longer = significantPart line := by
      rcases first with rfl | rfl
      · rfl
      · have trimmed : trim ([] ++ line ++ ['\r']) = trim line :=
          trim_padded (List.forall_mem_nil _) (List.forall_mem_singleton.mpr rfl) line
        unfold significantPart
        rw [← trimmed,List.nil_append]
    rw [List.flatMap_cons,List.flatMap_cons,same,ih]

end Lines

namespace ResultSet

/-- Takes in significant lines, whatever their numbers are. -/
def takeIn (set : ResultSet) : List (List Char) → Except BadValue ResultSet
  | [] => .ok set
  | line :: later =>
    match ResultLine.ofTrimmed line with
    | .ok content => (set.add content).takeIn later
    | .error bad => .error bad

/-- How reading tells what became of the significant lines. -/
inductive Tells (name : String) : Except BadValue ResultSet → Except Failure ResultSet → Prop
  | read (results : ResultSet) : Tells name (.ok results) (.ok results)
  | failed (bad : BadValue) (line : Nat) :
    Tells name (.error bad) (.error (.malformedValue name line bad.field bad.value))

theorem Tells.sameButLine {name : String} {told : Except BadValue ResultSet}
    {first second : Except Failure ResultSet} (one : Tells name told first)
    (other : Tells name told second) : SameButLine first second := by
  cases one with
  | read results =>
    cases other
    exact .read results
  | failed bad line =>
    cases other
    exact .failed ..

/-- Lines that do not count only move the number of the line on. -/
theorem tells_addLines (set : ResultSet) (number : Nat) (texts : List (List Char)) :
    Tells set.name (set.takeIn (texts.flatMap significantPart))
      (set.addLines number (texts.map fun text => encode (String.ofList text))) := by
  induction texts generalizing set number with
  | nil => exact .read set
  | cons text later ih =>
    simp only [List.map_cons,List.flatMap_cons,addLines,ResultLine.read_encode]
    by_cases idle : significantPart text = []
    · have silent : ResultLine.ofTrimmed (trim text) = .ok .idle :=
        if_pos ((isIdle_trim_iff text).mpr idle)
      rw [silent,idle,List.nil_append]
      exact ih set (number + 1)
    · rw [significantPart_of_busy idle,List.singleton_append]
      simp only [takeIn]
      cases ResultLine.ofTrimmed (trim text) with
      | error bad => exact .failed bad number
      | ok content =>
        have rest := ih (set.add content) (number + 1)
        rw [name_add] at rest
        exact rest

/-- Reading a text comes to taking in its significant lines. -/
theorem tells_read (name : String) (text : String) :
    Tells name (takeIn { name } (significantLines text)) (read name (encode text)) := by
  obtain ⟨earlier,last,pieces,shape⟩ := exists_lines_eq text.toList
  rw [String.ofList_toList] at shape
  have ending : (if last = [] then [] else [last]).flatMap significantPart = significantPart last := by
    split
    · next empty => rw [empty,significantPart_nil,List.flatMap_nil]
    · rw [List.flatMap_singleton]
  have same : significantLines text =
      (earlier ++ if last = [] then [] else [last]).flatMap significantPart := by
    rw [significantLines,pieces,List.flatMap_append,List.flatMap_append,ending,List.flatMap_singleton]
  rw [same,read,shape]
  exact tells_addLines { name } 1 _

theorem read_of_significantLines (name : String) {first second : String}
    (same : significantLines first = significantLines second) :
    SameButLine (read name (encode first)) (read name (encode second)) := by
  have one := tells_read name first
  rw [same] at one
  exact one.sameButLine (tells_read name second)

/-- Reading does not see how a file is laid out. Texts with the same significant lines give the same
results, or fail in the same way with different line numbers at most. In particular it makes no
difference whether lines end with carriage returns, whether the last one is ended, whether there are
blanks around lines, and which lines stand between the others that are blank or headers. -/
theorem read_layout (name : String) :
    (∀ first second, significantLines first = significantLines second →
      SameButLine (read name (encode first)) (read name (encode second))) ∧
    (∀ text, SameButLine (read name (encode (withCarriageReturns text))) (read name (encode text))) ∧
    (∀ text, SameButLine (read name (encode (text ++ "\n"))) (read name (encode text))) ∧
    (∀ lines padded, List.Forall₂ Padded lines padded →
      SameButLine (read name (encode (joinLines padded))) (read name (encode (joinLines lines)))) ∧
    ∀ front between back : List (List Char), (∀ line ∈ front ++ between ++ back, '\n' ∉ line) →
      (∀ line ∈ between, trim line = [] ∨ "run,".toList <+: trim line) →
      SameButLine (read name (encode (joinLines (front ++ between ++ back))))
        (read name (encode (joinLines (front ++ back)))) := by
  refine ⟨?_,?_,?_,?_,?_⟩
  · intro first second same
    exact read_of_significantLines name same
  · intro text
    exact read_of_significantLines name (significantLines_withCarriageReturns text)
  · intro text
    apply read_of_significantLines
    have ended := significantLines_append text.toList []
    rw [significantLines_of_not_mem List.not_mem_nil,significantPart_nil,List.append_nil,
      String.ofList_toList] at ended
    rw [← ended,String.ofList_append,String.ofList_toList]
  · intro lines padded each
    apply read_of_significantLines
    obtain ⟨inside,within⟩ := not_mem_of_padded each
    rw [significantLines_joinLines inside,significantLines_joinLines within]
    clear inside within
    induction each with
    | nil => rfl
    | cons first _ ih => rw [List.flatMap_cons,List.flatMap_cons,first.significantPart_eq,ih]
  · intro front between back inside idle
    apply read_of_significantLines
    have fewer : ∀ line ∈ front ++ back, '\n' ∉ line := fun line member =>
      inside line (by simp only [List.mem_append] at member ⊢; tauto)
    have silent : between.flatMap significantPart = [] :=
      List.flatMap_eq_nil_iff.mpr fun line member => if_pos (idle line member)
    rw [significantLines_joinLines inside,significantLines_joinLines fewer]
    simp only [List.flatMap_append,silent,List.append_nil]

/-- A header and ends of lines in the manner of another system only change the line that is told. -/
theorem read_layout_header :
    significantLines "run,total\r\n\r\n #p50_ns=x\r\n" = significantLines "#p50_ns=x" ∧
      read "gc" (encode "#p50_ns=x") = .error (.malformedValue "gc" 1 "p50_ns" "x") ∧
      (∃ line, read "gc" (encode "run,total\r\n\r\n #p50_ns=x\r\n") =
        .error (.malformedValue "gc" line "p50_ns" "x")) ∧
      List.Forall₂ Padded ["1,2".toList] ["\t1,2 ".toList] ∧
      SameButLine (read "gc" (encode (joinLines ["\t1,2 ".toList])))
        (read "gc" (encode (joinLines ["1,2".toList]))) ∧
      SameButLine (read "gc" (encode (joinLines ["1,2".toList," run,".toList])))
        (read "gc" (encode (joinLines ["1,2".toList]))) := by
  have same : significantLines "run,total\r\n\r\n #p50_ns=x\r\n" = significantLines "#p50_ns=x" := by
    decide
  have wrong : read "gc" (encode "#p50_ns=x") = .error (.malformedValue "gc" 1 "p50_ns" "x") := rfl
  have padded : List.Forall₂ Padded ["1,2".toList] ["\t1,2 ".toList] := by
    have line : Padded "1,2".toList ("\t".toList ++ "1,2".toList ++ " ".toList) :=
      .mk (by decide) (List.forall_mem_singleton.mpr ⟨rfl,by decide⟩)
        (List.forall_mem_singleton.mpr ⟨rfl,by decide⟩)
    exact .cons line .nil
  obtain ⟨alike,_,_,blanks,headers⟩ := read_layout "gc"
  have told := alike _ _ same
  rw [wrong] at told
  refine ⟨same,wrong,?_,padded,blanks _ _ padded,
    headers ["1,2".toList] [" run,".toList] [] (by decide) (by decide)⟩
  generalize read "gc" (encode "run,total\r\n\r\n #p50_ns=x\r\n") = first at told ⊢
  cases told
  exact ⟨_,rfl⟩

end ResultSet
end CollectorBench
