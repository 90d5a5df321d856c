import MessageBroker.Route

/-!
# The meaning of routes

A text is written in one way as segments without slashes that are joined by slashes. Two texts match
if neither is empty and their segments agree wherever both have one. This is symmetric, and segments
at the end of the longer text do not count: they may be cut off or added to.
-/

namespace MessageBroker

namespace Route

/-- A text is these segments, none of which has a slash, joined by slashes. -/
structure Splits (cs : List Char) (segments : List Segment) : Prop where
  some : segments ≠ []
  plain : ∀ segment ∈ segments, '/' ∉ segment
  joined : join segments = cs

variable {cs ds : List Char} {as bs : List Segment}

theorem segmentsOf_ne_nil (cs : List Char) : segmentsOf cs ≠ [] := by
  cases cs with
  | nil => exact List.cons_ne_nil _ _
  | cons c cs =>
      unfold segmentsOf
      split
      · exact List.cons_ne_nil _ _
      · split <;> exact List.cons_ne_nil _ _

theorem segmentsOf_slash (cs : List Char) : segmentsOf ('/' :: cs) = [] :: segmentsOf cs := by
  rw [segmentsOf, if_pos rfl]

/-- A character that is no slash belongs to the first segment. -/
theorem segmentsOf_cons {c : Char} (plain : c ≠ '/') {first : Segment} {more : List Segment}
    (rest : segmentsOf cs = first :: more) : segmentsOf (c :: cs) = (c :: first) :: more := by
  rw [segmentsOf, if_neg plain, rest]

theorem join_cons {first : Segment} {more : List Segment} (some' : more ≠ []) :
    join (first :: more) = first ++ '/' :: join more := by
  cases more with
  | nil => exact absurd rfl some'
  | cons => rfl

theorem join_cons_cons (c : Char) (first : Segment) (more : List Segment) :
    join ((c :: first) :: more) = c :: join (first :: more) := by
  cases more <;> rfl

/-- The segments of a text are those it splits into. -/
theorem splits_segmentsOf (cs : List Char) : Splits cs (segmentsOf cs) := by
  induction cs with
  | nil => exact ⟨List.cons_ne_nil _ _, by simp [segmentsOf], rfl⟩
  | cons c cs ih =>
      by_cases slash : c = '/'
      · subst slash
        rw [segmentsOf_slash]
        refine ⟨List.cons_ne_nil _ _, List.forall_mem_cons.2 ⟨List.not_mem_nil, ih.plain⟩, ?_⟩
        rw [join_cons ih.some, ih.joined, List.nil_append]
      · obtain ⟨first, more, rest⟩ := List.exists_cons_of_ne_nil ih.some
        rw [segmentsOf_cons slash rest]
        rw [rest] at ih
        obtain ⟨here, plain⟩ := List.forall_mem_cons.1 ih.plain
        refine ⟨List.cons_ne_nil _ _, List.forall_mem_cons.2 ⟨?_, plain⟩, ?_⟩
        · exact fun listed => (List.mem_cons.1 listed).elim (fun same => slash same.symm) here
        · rw [join_cons_cons, ih.joined]

/-- A first segment is found again in front of a slash. -/
theorem segmentsOf_append_slash {segment : Segment} (plain : '/' ∉ segment) (cs : List Char) :
    segmentsOf (segment ++ '/' :: cs) = segment :: segmentsOf cs := by
  induction segment with
  | nil => exact segmentsOf_slash cs
  | cons c segment ih =>
      obtain ⟨here, plain⟩ := not_or.1 (mt List.mem_cons.2 plain)
      exact segmentsOf_cons (Ne.symm here) (ih plain)

theorem segmentsOf_of_plain {segment : Segment} (plain : '/' ∉ segment) :
    segmentsOf segment = [segment] := by
  induction segment with
  | nil => rfl
  | cons c segment ih =>
      obtain ⟨here, plain⟩ := not_or.1 (mt List.mem_cons.2 plain)
      exact segmentsOf_cons (Ne.symm here) (ih plain)

/-- There is one way to split a text. -/
theorem Splits.eq_segmentsOf (splits : Splits cs as) : as = segmentsOf cs := by
  obtain ⟨some', plain, rfl⟩ := splits
  induction as with
  | nil => exact absurd rfl some'
  | cons segment more ih =>
      obtain ⟨here, plain⟩ := List.forall_mem_cons.1 plain
      by_cases last : more = []
      · subst last
        exact (segmentsOf_of_plain here).symm
      · rw [join_cons last, segmentsOf_append_slash here, ← ih last plain]

theorem splits_iff : Splits cs as ↔ as = segmentsOf cs :=
  ⟨Splits.eq_segmentsOf, fun same => same ▸ splits_segmentsOf cs⟩

theorem length_segmentsOf (cs : List Char) : (segmentsOf cs).length = cs.count '/' + 1 := by
  induction cs with
  | nil => rfl
  | cons c cs ih =>
      by_cases slash : c = '/'
      · subst slash
        rw [segmentsOf_slash, List.length_cons, ih, List.count_cons_self]
      · obtain ⟨first, more, rest⟩ := List.exists_cons_of_ne_nil (segmentsOf_ne_nil cs)
        rw [rest] at ih
        rw [segmentsOf_cons slash rest, List.count_cons_of_ne slash]
        exact ih

/-- A slash is a boundary between the segments before and after it. -/
theorem segmentsOf_append (cs ds : List Char) :
    segmentsOf (cs ++ '/' :: ds) = segmentsOf cs ++ segmentsOf ds := by
  induction cs with
  | nil => exact segmentsOf_slash ds
  | cons c cs ih =>
      by_cases slash : c = '/'
      · subst slash
        rw [List.cons_append, segmentsOf_slash, segmentsOf_slash, ih, List.cons_append]
      · obtain ⟨first, more, rest⟩ := List.exists_cons_of_ne_nil (segmentsOf_ne_nil cs)
        rw [rest] at ih
        rw [List.cons_append, segmentsOf_cons slash ih, segmentsOf_cons slash rest]
        rfl

/-! ## Agreement -/

theorem segmentAgrees_iff {a b : Segment} :
    segmentAgrees a b = true ↔ a = b ∨ a = ['*'] ∨ b = ['*'] := by
  simp [segmentAgrees, isWild, or_assoc]

/-- Lists of segments agree if their segments agree at every place that both have. -/
theorem agrees_iff : agrees as bs = true ↔
    ∀ i (here : i < as.length) (there : i < bs.length),
      as[i] = bs[i] ∨ as[i] = ['*'] ∨ bs[i] = ['*'] := by
  induction as generalizing bs with
  | nil => exact iff_of_true rfl nofun
  | cons a as ih =>
      cases bs with
      | nil => exact iff_of_true rfl nofun
      | cons b bs =>
          rw [agrees, Bool.and_eq_true, segmentAgrees_iff, ih]
          constructor
          · rintro ⟨first, rest⟩ i here there
            cases i with
            | zero => exact first
            | succ i => exact rest i (Nat.lt_of_succ_lt_succ here) (Nat.lt_of_succ_lt_succ there)
          · intro places
            refine ⟨places 0 (Nat.succ_pos _) (Nat.succ_pos _), fun i here there => ?_⟩
            exact places (i + 1) (Nat.succ_lt_succ here) (Nat.succ_lt_succ there)

theorem agrees_comm (as bs : List Segment) : agrees as bs = agrees bs as := by
  have one : ∀ as bs : List Segment, agrees as bs = true → agrees bs as = true := by
    intro as bs agree
    rw [agrees_iff] at agree ⊢
    exact fun i here there => (agree i there here).imp Eq.symm Or.symm
  exact Bool.eq_iff_iff.2 ⟨one as bs, one bs as⟩

/-- Segments at the end may be cut off. -/
theorem agrees_of_append {more : List Segment} (agree : agrees (as ++ more) bs = true) :
    agrees as bs = true := by
  rw [agrees_iff] at agree ⊢
  intro i here there
  have longer : i < (as ++ more).length := by
    rw [List.length_append]
    exact Nat.lt_add_right _ here
  simpa only [List.getElem_append_left here] using agree i longer there

/-- Segments may be added where the other list has none any more. -/
theorem agrees_append (long : bs.length ≤ as.length) (agree : agrees as bs = true)
    (more : List Segment) : agrees (as ++ more) bs = true := by
  rw [agrees_iff] at agree ⊢
  intro i here there
  have within : i < as.length := Nat.lt_of_lt_of_le there long
  simpa only [List.getElem_append_left within] using agree i within there

/-! ## Matches -/

variable {route pattern : String}

theorem matchesText_iff : matchesText route pattern = true ↔
    route ≠ "" ∧ pattern ≠ "" ∧ agrees (segments route) (segments pattern) = true := by
  simp [matchesText, and_assoc]

theorem matchesText_comm (route pattern : String) :
    matchesText route pattern = matchesText pattern route := by
  rw [matchesText, matchesText, agrees_comm, Bool.and_comm (!route.isEmpty)]

theorem segments_append (front rest : String) :
    segments (front ++ "/" ++ rest) = segments front ++ segments rest := by
  have whole : (front ++ "/" ++ rest).toList = front.toList ++ '/' :: rest.toList := by simp
  rw [segments, whole, segmentsOf_append, segments, segments]

/-- A route may be cut back to any front part that ends at a boundary and is not empty. -/
theorem matchesText_of_cut {front rest : String} (some' : front ≠ "")
    (found : matchesText (front ++ "/" ++ rest) pattern = true) :
    matchesText front pattern = true := by
  obtain ⟨-, given, agree⟩ := matchesText_iff.1 found
  rw [segments_append] at agree
  exact matchesText_iff.2 ⟨some', given, agrees_of_append agree⟩

/-- A route may go on where the pattern has ended. -/
theorem matchesText_extend (long : (segments pattern).length ≤ (segments route).length)
    (found : matchesText route pattern = true) (more : String) :
    matchesText (route ++ "/" ++ more) pattern = true := by
  obtain ⟨some', given, agree⟩ := matchesText_iff.1 found
  refine matchesText_iff.2 ⟨by simp, given, ?_⟩
  rw [segments_append]
  exact agrees_append long agree _

end Route

namespace Pattern

open Route

theorem ofText?_eq_some_iff {text : String} {p : Pattern} :
    ofText? text = some p ↔ p.text = text := by
  unfold ofText?
  split
  · rw [Option.some.injEq]
    exact ⟨fun same => same ▸ rfl, fun same => by cases p; cases same; rfl⟩
  · rename_i empty
    exact iff_of_false nofun fun same => empty (same ▸ p.nonempty)

/-- Every text but the empty one is the text of a pattern. -/
theorem ofText?_isSome_iff {text : String} : (∃ p, ofText? text = some p) ↔ text ≠ "" := by
  constructor
  · rintro ⟨p, parsed⟩ rfl
    have empty := ofText?_eq_some_iff.1 parsed
    exact absurd p.nonempty (by simp [empty])
  · intro some'
    have nonempty : text.isEmpty = false := by simpa using some'
    exact ⟨⟨text, nonempty⟩, ofText?_eq_some_iff.2 rfl⟩

theorem accepts_eq_matchesText (p : Pattern) (route : String) :
    p.accepts route = matchesText route p.text := by
  rw [accepts, matchesText, p.nonempty, Bool.not_false, Bool.and_true, Pattern.segments]

/-- Two texts match exactly if neither is empty and the segments into which they split agree wherever
both have one. Every text but the empty one is that of a pattern, which accepts what matches. Matching
is symmetric; either text may be cut back to a front part, and the longer one may go on. -/
theorem matching_has_one_meaning (route pattern : String) :
    (∃ as bs, (∀ segments, Splits route.toList segments ↔ segments = as) ∧
      (∀ segments, Splits pattern.toList segments ↔ segments = bs) ∧
      (matchesText route pattern = true ↔ route ≠ "" ∧ pattern ≠ "" ∧
        ∀ i (here : i < as.length) (there : i < bs.length),
          as[i] = bs[i] ∨ as[i] = ['*'] ∨ bs[i] = ['*']) ∧
      (bs.length ≤ as.length → matchesText route pattern = true →
        ∀ more, matchesText (route ++ "/" ++ more) pattern = true) ∧
      (as.length ≤ bs.length → matchesText route pattern = true →
        ∀ more, matchesText route (pattern ++ "/" ++ more) = true)) ∧
    ((∃ p, ofText? pattern = some p) ↔ pattern ≠ "") ∧
    (∀ p, ofText? pattern = some p → p.text = pattern ∧ join p.segments = pattern.toList ∧
      p.depth = pattern.toList.count '/' + 1 ∧ p.accepts route = matchesText route pattern) ∧
    matchesText route pattern = matchesText pattern route ∧
    (∀ front rest, front ≠ "" → route = front ++ "/" ++ rest → matchesText route pattern = true →
      matchesText front pattern = true) ∧
    ∀ front rest, front ≠ "" → pattern = front ++ "/" ++ rest → matchesText route pattern = true →
      matchesText route front = true := by
  refine ⟨⟨Route.segments route, Route.segments pattern, fun _ => splits_iff, fun _ => splits_iff,
    ?_, ?_, ?_⟩, ?_, ?_, matchesText_comm route pattern, ?_, ?_⟩
  · rw [matchesText_iff, agrees_iff]
  · exact fun long found more => matchesText_extend long found more
  · intro long found more
    rw [matchesText_comm] at found ⊢
    exact matchesText_extend long found more
  · exact ofText?_isSome_iff
  · intro p parsed
    obtain rfl := ofText?_eq_some_iff.1 parsed
    exact ⟨rfl, (splits_segmentsOf _).joined, length_segmentsOf _, p.accepts_eq_matchesText route⟩
  · rintro front rest some' rfl found
    exact matchesText_of_cut some' found
  · rintro front rest some' rfl found
    rw [matchesText_comm] at found ⊢
    exact matchesText_of_cut some' found

end Pattern

end MessageBroker
