import FakeBolt.PercentEncoding
import Mathlib.Data.List.DropRight

/-!
# The path an HTTP client asks for

How the path of an `http` URL is read from its text: blanks around it and line
breaks inside go, the query and the fragment are cut off, `\` counts as `/`, dot
segments are resolved, and what a path may not hold is escaped.  A `%` is left
as it is.
-/

namespace FakeBolt.Url

/-! ## Cutting the text -/

def isC0OrSpace (c : Char) : Bool :=
  decide (c.toNat ≤ 0x20)

def isTabOrNewline (c : Char) : Bool :=
  c == '\t' || c == '\n' || c == '\r'

def isSlash (c : Char) : Bool :=
  c == '/' || c == '\\'

/-- The query or the fragment begins. -/
def endsPath (c : Char) : Bool :=
  c == '?' || c == '#'

def cleaned (url : List Char) : List Char :=
  ((url.dropWhile isC0OrSpace).rdropWhile isC0OrSpace).filter fun c =>
    !isTabOrNewline c

def scheme : List Char :=
  ['h', 't', 't', 'p', ':', '/', '/']

/-- What follows the host of an `http` URL. -/
def afterHost (url : List Char) : List Char :=
  ((cleaned url).drop scheme.length).dropWhile fun c =>
    !(isSlash c || endsPath c)

/-! ## Dot segments -/

def isSingleDot (segment : List Char) : Bool :=
  segment == ['.'] || segment.map Char.toLower == ['%', '2', 'e']

def isDoubleDot (segment : List Char) : Bool :=
  segment == ['.', '.'] ||
    segment.map Char.toLower == ['.', '%', '2', 'e'] ||
    segment.map Char.toLower == ['%', '2', 'e', '.'] ||
    segment.map Char.toLower == ['%', '2', 'e', '%', '2', 'e']

/-- The segments with the dot segments resolved against those kept so far; one
at the end leaves an empty segment. -/
def resolve (kept : List (List Char)) : List (List Char) → List (List Char)
  | [] => kept
  | segment :: rest =>
      if isDoubleDot segment then
        if rest = [] then kept.dropLast ++ [[]] else resolve kept.dropLast rest
      else if isSingleDot segment then
        if rest = [] then kept ++ [[]] else resolve kept rest
      else resolve (kept ++ [segment]) rest

/-- The segments as they stand in the text. -/
def writtenSegments (url : List Char) : List (List Char) :=
  (((afterHost url).takeWhile fun c => !endsPath c).drop 1).splitOnP isSlash

def isPathEscaped (c : Char) : Bool :=
  decide (c.toNat < 0x20) || decide (0x7E < c.toNat) ||
    [' ', '"', '#', '<', '>', '?', '^', '\x60', '\x7b', '\x7d'].contains c

/-- The segments of the request. -/
def pathSegments (url : List Char) : List (List Char) :=
  (resolve [] (writtenSegments url)).map (escape isPathEscaped)

def joinSegments (segments : List (List Char)) : List Char :=
  segments.flatMap fun segment => '/' :: segment

def pathname (url : List Char) : List Char :=
  joinSegments (pathSegments url)

/-! ## What segments come from -/

theorem of_mem_splitOnP {separates : Char → Bool} {text segment : List Char}
    (hsegment : segment ∈ text.splitOnP separates) :
    List.Sublist segment text ∧ ∀ c ∈ segment, separates c = false := by
  induction text generalizing segment with
  | nil =>
      rw [List.splitOnP_nil, List.mem_singleton] at hsegment
      subst hsegment
      simp
  | cons c text ih =>
      rw [List.splitOnP_cons_eq_if_modifyHead] at hsegment
      split at hsegment
      · rcases List.mem_cons.mp hsegment with rfl | hrest
        · simp
        · have hpart := ih hrest
          exact ⟨hpart.1.cons c, hpart.2⟩
      · rename_i hc
        rw [Bool.not_eq_true] at hc
        cases hsplit : text.splitOnP separates with
        | nil => exact absurd hsplit (List.splitOnP_ne_nil _ _)
        | cons first others =>
            rw [hsplit] at ih
            rw [hsplit, List.modifyHead_cons] at hsegment
            rcases List.mem_cons.mp hsegment with rfl | hrest
            · have hpart := ih List.mem_cons_self
              refine ⟨hpart.1.cons_cons c, ?_⟩
              intro d hd
              rcases List.mem_cons.mp hd with rfl | hd
              · exact hc
              · exact hpart.2 d hd
            · have hpart := ih (List.mem_cons_of_mem _ hrest)
              exact ⟨hpart.1.cons c, hpart.2⟩

/-- Resolving drops segments, and may add an empty one at the end. -/
theorem resolve_sublist (kept segments : List (List Char)) :
    ∃ left, List.Sublist left (kept ++ segments) ∧
      (resolve kept segments = left ∨ resolve kept segments = left ++ [[]]) := by
  induction segments generalizing kept with
  | nil => exact ⟨kept, by simp, Or.inl rfl⟩
  | cons segment rest ih =>
      have hdrop : List.Sublist kept.dropLast kept := List.dropLast_sublist kept
      have hskip : List.Sublist rest (segment :: rest) :=
        List.sublist_cons_self segment rest
      unfold resolve
      split_ifs
      · exact ⟨kept.dropLast, hdrop.trans (List.sublist_append_left _ _),
          Or.inr rfl⟩
      · obtain ⟨left, hleft, hresolve⟩ := ih kept.dropLast
        exact ⟨left, hleft.trans (hdrop.append hskip), hresolve⟩
      · exact ⟨kept, List.sublist_append_left _ _, Or.inr rfl⟩
      · obtain ⟨left, hleft, hresolve⟩ := ih kept
        exact ⟨left, hleft.trans ((List.Sublist.refl kept).append hskip),
          hresolve⟩
      · obtain ⟨left, hleft, hresolve⟩ := ih (kept ++ [segment])
        rw [List.append_assoc] at hleft
        exact ⟨left, hleft, hresolve⟩

/-- Nothing but an empty segment is added. -/
theorem sublist_of_sublist_resolve {kept segments part : List (List Char)}
    (hpart : List.Sublist part (resolve kept segments))
    (hnonempty : ∀ segment ∈ part, segment ≠ []) :
    List.Sublist part (kept ++ segments) := by
  obtain ⟨left, hleft, hresolve⟩ := resolve_sublist kept segments
  rcases hresolve with hresolve | hresolve
  · rw [hresolve] at hpart
    exact hpart.trans hleft
  · rw [hresolve] at hpart
    obtain ⟨front, added, rfl, hfront, hadded⟩ :=
      List.sublist_append_iff.mp hpart
    have hnone : added = [] := by
      cases added with
      | nil => rfl
      | cons segment others =>
          have hmem := hadded.subset List.mem_cons_self
          rw [List.mem_singleton] at hmem
          exact absurd hmem (hnonempty segment (by simp))
    rw [hnone, List.append_nil]
    exact hfront.trans hleft

def isDot (segment : List Char) : Bool :=
  isSingleDot segment || isDoubleDot segment

theorem isDot_eq_false_of_mem_resolve {kept segments : List (List Char)}
    (hkept : ∀ segment ∈ kept, isDot segment = false) :
    ∀ segment ∈ resolve kept segments, isDot segment = false := by
  induction segments generalizing kept with
  | nil => exact hkept
  | cons first rest ih =>
      have hempty : isDot [] = false := by decide
      have hdropped : ∀ segment ∈ kept.dropLast, isDot segment = false :=
        fun segment hsegment =>
          hkept segment (List.mem_of_mem_dropLast hsegment)
      unfold resolve
      split_ifs with hdouble _ hsingle _
      · intro segment hsegment
        rcases List.mem_append.mp hsegment with hold | hnew
        · exact hdropped segment hold
        · rw [List.mem_singleton.mp hnew]
          exact hempty
      · exact ih hdropped
      · intro segment hsegment
        rcases List.mem_append.mp hsegment with hold | hnew
        · exact hkept segment hold
        · rw [List.mem_singleton.mp hnew]
          exact hempty
      · exact ih hkept
      · apply ih
        intro segment hsegment
        rcases List.mem_append.mp hsegment with hold | hnew
        · exact hkept segment hold
        · rw [List.mem_singleton.mp hnew, isDot]
          simp [hdouble, hsingle]

theorem resolve_of_no_dots {segments : List (List Char)}
    (hsegments : ∀ segment ∈ segments, isDot segment = false)
    (kept : List (List Char)) : resolve kept segments = kept ++ segments := by
  induction segments generalizing kept with
  | nil => simp [resolve]
  | cons segment rest ih =>
      have hsegment := hsegments segment List.mem_cons_self
      rw [isDot, Bool.or_eq_false_iff] at hsegment
      unfold resolve
      rw [if_neg (by simp [hsegment.2]), if_neg (by simp [hsegment.1]),
        ih fun other hother => hsegments other (List.mem_cons_of_mem _ hother)]
      simp

/-- Lower case changes nothing but letters. -/
theorem eq_of_toLower_eq {c d : Char} (hd : d.val.toNat < 97)
    (hlower : c.toLower = d) : c = d := by
  unfold Char.toLower at hlower
  split at hlower
  · rename_i hupper
    have hvalue := congrArg (fun e : Char => e.val.toNat) hlower
    have hlow : 65 ≤ c.val.toNat := UInt32.le_iff_toNat_le.mp hupper.1
    have hhigh : c.val.toNat ≤ 90 := UInt32.le_iff_toNat_le.mp hupper.2
    have hshift : ('a'.val - 'A'.val).toNat = 32 := by decide
    simp only [UInt32.toNat_add, hshift] at hvalue
    omega
  · exact hlower

theorem isDot_of_no_percent {segment : List Char} (hpercent : '%' ∉ segment) :
    isDot segment = true ↔ segment = ['.'] ∨ segment = ['.', '.'] := by
  have hlower : ∀ dots, '%' ∈ dots → segment.map Char.toLower ≠ dots := by
    rintro dots hdots rfl
    obtain ⟨c, hc, heq⟩ := List.mem_map.mp hdots
    rw [eq_of_toLower_eq (by decide) heq] at hc
    exact hpercent hc
  simp only [isDot, isSingleDot, isDoubleDot, Bool.or_eq_true, beq_iff_eq]
  constructor
  · rintro ((hdot | hescaped) | (((hdots | hescaped) | hescaped) | hescaped))
    · exact Or.inl hdot
    · exact absurd hescaped (hlower _ (by decide))
    · exact Or.inr hdots
    · exact absurd hescaped (hlower _ (by decide))
    · exact absurd hescaped (hlower _ (by decide))
    · exact absurd hescaped (hlower _ (by decide))
  · rintro (rfl | rfl)
    · exact Or.inl (Or.inl rfl)
    · exact Or.inr (Or.inl (Or.inl (Or.inl rfl)))

theorem slash_not_mem_of_mem_pathSegments {url segment : List Char}
    (hsegment : segment ∈ pathSegments url) : '/' ∉ segment := by
  unfold pathSegments at hsegment
  obtain ⟨written, hwritten, rfl⟩ := List.mem_map.mp hsegment
  intro hslash
  rcases of_mem_escape hslash with hmem | hpercent | hhex
  · obtain ⟨left, hleft, hresolve⟩ :=
      resolve_sublist [] (writtenSegments url)
    have hfrom : written ∈ writtenSegments url ∨ written = [] := by
      rcases hresolve with hresolve | hresolve
      · rw [hresolve] at hwritten
        exact Or.inl (hleft.subset hwritten)
      · rw [hresolve, List.mem_append, List.mem_singleton] at hwritten
        exact hwritten.imp (fun h => hleft.subset h) id
    rcases hfrom with hfrom | rfl
    · have hplain := (of_mem_splitOnP hfrom).2 '/' hmem
      exact absurd hplain (by decide)
    · cases hmem
  · exact absurd hpercent (by decide)
  · exact absurd hhex (by decide)

/-! ## URLs of one host -/

/-- Where a service is reached: `http://`, its host and its port. -/
structure Origin where
  host : List Char
  plain : ∀ c ∈ host, isC0OrSpace c = false ∧ isSlash c = false ∧
    endsPath c = false

def Origin.text (origin : Origin) : List Char :=
  scheme ++ origin.host

theorem isC0OrSpace_of_isTabOrNewline {c : Char}
    (hc : isTabOrNewline c = true) : isC0OrSpace c = true := by
  simp only [isTabOrNewline, Bool.or_eq_true, beq_iff_eq] at hc
  rcases hc with (rfl | rfl) | rfl <;> decide

/-- The text after the host, as far as it is read. -/
def readPath (text : List Char) : List Char :=
  ((text.rdropWhile isC0OrSpace).filter fun c =>
    !isTabOrNewline c).takeWhile fun c => !endsPath c

theorem rdropWhile_append_cons {α : Type*} {p : α → Bool} (front : List α)
    {c : α} (hc : p c = false) (rest : List α) :
    (front ++ c :: rest).rdropWhile p = front ++ c :: rest.rdropWhile p := by
  induction rest using List.reverseRecOn with
  | nil =>
      rw [List.rdropWhile_concat_neg p front c (by simp [hc]),
        List.rdropWhile_nil]
  | append_singleton rest last ih =>
      have hassoc : front ++ c :: (rest ++ [last]) =
          (front ++ c :: rest) ++ [last] := by simp
      rw [hassoc, List.rdropWhile_concat, List.rdropWhile_concat]
      split
      · exact ih
      · exact hassoc.symm

theorem Origin.text_eq_cons (origin : Origin) :
    ∃ rest, origin.text = 'h' :: rest :=
  ⟨_, rfl⟩

theorem Origin.filter_text (origin : Origin) :
    origin.text.filter (fun c => !isTabOrNewline c) = origin.text := by
  rw [List.filter_eq_self]
  intro c hc
  rw [Bool.not_eq_true']
  rw [Origin.text, List.mem_append] at hc
  rcases hc with hscheme | hhost
  · have hall : scheme.all (fun c => !isTabOrNewline c) = true := by decide
    simpa using List.all_eq_true.mp hall c hscheme
  · by_contra hblank
    rw [Bool.not_eq_false] at hblank
    have hspace := isC0OrSpace_of_isTabOrNewline hblank
    rw [(origin.plain c hhost).1] at hspace
    cases hspace

theorem cleaned_origin (origin : Origin) (text : List Char) :
    cleaned (origin.text ++ '/' :: text) =
      origin.text ++ '/' :: (text.rdropWhile isC0OrSpace).filter fun c =>
        !isTabOrNewline c := by
  unfold cleaned
  have hfront : (origin.text ++ '/' :: text).dropWhile isC0OrSpace =
      origin.text ++ '/' :: text := by
    obtain ⟨rest, hrest⟩ := origin.text_eq_cons
    rw [hrest, List.cons_append, List.dropWhile_cons_of_neg (by decide)]
  rw [hfront, rdropWhile_append_cons _ (by decide), List.filter_append,
    origin.filter_text, List.filter_cons_of_pos (by decide)]

theorem afterHost_origin (origin : Origin) (text : List Char) :
    afterHost (origin.text ++ '/' :: text) =
      '/' :: (text.rdropWhile isC0OrSpace).filter fun c =>
        !isTabOrNewline c := by
  unfold afterHost
  rw [cleaned_origin, Origin.text, List.append_assoc]
  rw [List.drop_left, List.dropWhile_append_of_pos]
  · rw [List.dropWhile_cons_of_neg (by decide)]
  · intro c hc
    simp [(origin.plain c hc).2]

theorem writtenSegments_origin (origin : Origin) (text : List Char) :
    writtenSegments (origin.text ++ '/' :: text) =
      (readPath text).splitOnP isSlash := by
  unfold writtenSegments
  rw [afterHost_origin, List.takeWhile_cons_of_pos (by decide)]
  rfl

/-! ## Reading a path in parts -/

section Parts

variable {front text rest : List Char}

theorem readPath_sublist : List.Sublist (readPath text) text := by
  have htrim : List.Sublist (text.rdropWhile isC0OrSpace) text :=
    (List.rdropWhile_prefix isC0OrSpace text).sublist
  exact (List.takeWhile_sublist _).trans (List.filter_sublist.trans htrim)

theorem of_mem_readPath {c : Char} (hc : c ∈ readPath text) :
    isTabOrNewline c = false ∧ endsPath c = false := by
  have hends := List.mem_takeWhile_imp hc
  have hblank := (List.mem_filter.mp (List.takeWhile_subset _ hc)).2
  rw [Bool.not_eq_true'] at hends hblank
  exact ⟨hblank, hends⟩

/-- What no character of a text cuts is read as it is. -/
theorem readPath_append (hfront : ∀ c ∈ front,
      isTabOrNewline c = false ∧ endsPath c = false)
    (htrim : (front ++ rest).rdropWhile isC0OrSpace =
      front ++ rest.rdropWhile isC0OrSpace) :
    readPath (front ++ rest) = front ++ readPath rest := by
  unfold readPath
  rw [htrim, List.filter_append]
  have hfilter : front.filter (fun c => !isTabOrNewline c) = front := by
    rw [List.filter_eq_self]
    intro c hc
    simp [(hfront c hc).1]
  rw [hfilter, List.takeWhile_append_of_pos]
  intro c hc
  simp [(hfront c hc).2]

theorem readPath_sublist_rdropWhile (text : List Char) :
    List.Sublist (readPath text) (text.rdropWhile isC0OrSpace) :=
  (List.takeWhile_sublist _).trans List.filter_sublist

theorem readPath_eq_self (htext : ∀ c ∈ text,
      isTabOrNewline c = false ∧ endsPath c = false)
    (htrim : text.rdropWhile isC0OrSpace = text) : readPath text = text := by
  have hread : readPath (text ++ []) = text ++ readPath [] :=
    readPath_append htext (by simpa using htrim)
  simpa [readPath] using hread

/-- A last segment is still there, unless something before it ends the
path. -/
theorem readPath_ending (text : List Char) {last : List Char} (hlast : ∀ c ∈ last,
      isTabOrNewline c = false ∧ endsPath c = false ∧ isSlash c = false)
    (htrim : last.rdropWhile isC0OrSpace = last) :
    ∃ part tail, (readPath (text ++ '/' :: last)).splitOnP isSlash =
        part.splitOnP isSlash ++ tail ∧
      List.Sublist part text ∧ (tail = [] ∨ tail = [last]) ∧
      (∀ c ∈ part, isTabOrNewline c = false ∧ endsPath c = false) ∧
      ((∀ c ∈ text, isTabOrNewline c = false ∧ endsPath c = false) →
        part = text ∧ tail = [last]) := by
  have hslash : isSlash '/' = true := by decide
  have hblank : ∀ c ∈ '/' :: last, (!isTabOrNewline c) = true := by
    intro c hc
    rcases List.mem_cons.mp hc with rfl | hc
    · decide
    · simp [(hlast c hc).1]
  have hpath : ∀ c ∈ '/' :: last, (!endsPath c) = true := by
    intro c hc
    rcases List.mem_cons.mp hc with rfl | hc
    · decide
    · simp [(hlast c hc).2.1]
  have hread : readPath (text ++ '/' :: last) =
      ((text.filter fun c => !isTabOrNewline c) ++ '/' :: last).takeWhile
        fun c => !endsPath c := by
    unfold readPath
    rw [rdropWhile_append_cons text (by decide), htrim, List.filter_append,
      List.filter_eq_self.mpr hblank]
  rw [hread]
  generalize hkept : (text.filter fun c => !isTabOrNewline c) = kept
  have hsublist : List.Sublist kept text := by
    rw [← hkept]
    exact List.filter_sublist
  have hkeptChars : ∀ c ∈ kept, isTabOrNewline c = false := by
    intro c hc
    rw [← hkept] at hc
    simpa using (List.mem_filter.mp hc).2
  by_cases hends : ∀ c ∈ kept, (!endsPath c) = true
  · refine ⟨kept, [last], ?_, hsublist, Or.inr rfl, ?_, ?_⟩
    · rw [List.takeWhile_append_of_pos hends,
        List.takeWhile_eq_self_iff.mpr hpath, List.splitOnP_append_cons _ _ hslash,
        List.splitOnP_eq_singleton fun c hc => (hlast c hc).2.2]
    · intro c hc
      exact ⟨hkeptChars c hc, by simpa using hends c hc⟩
    · intro htext
      refine ⟨?_, rfl⟩
      rw [← hkept, List.filter_eq_self]
      intro c hc
      simp [(htext c hc).1]
  · refine ⟨kept.takeWhile fun c => !endsPath c, [], ?_,
      (List.takeWhile_sublist _).trans hsublist, Or.inl rfl, ?_, ?_⟩
    · rw [List.takeWhile_append]
      have hshort : (kept.takeWhile fun c => !endsPath c).length ≠
          kept.length := by
        intro hlength
        apply hends
        exact List.takeWhile_eq_self_iff.mp
          ((List.takeWhile_prefix _).eq_of_length hlength)
      rw [if_neg hshort, List.append_nil]
    · intro c hc
      have hpart := List.mem_takeWhile_imp hc
      exact ⟨hkeptChars c (List.takeWhile_subset _ hc), by simpa using hpart⟩
    · intro htext
      exfalso
      apply hends
      intro c hc
      simp [(htext c (hsublist.subset hc)).2]

end Parts

end FakeBolt.Url
