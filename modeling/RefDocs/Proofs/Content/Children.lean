import RefDocs.Proofs.Content.Containers

/-!
# Lists of children

Children are written one behind the other, each from where the last one leaves the cursor, and those
that show something leave it at the start of a line.
-/

namespace RefDocs

/-- Text written behind other text, from where that leaves the cursor. -/
def Written.andThen (before : Written) (next : Bool → Written) : Written :=
  let behind := next before.atLineStart
  ⟨before.text ++ behind.text, behind.atLineStart⟩

namespace Content

theorem allEmpty_append (front back : List Content) :
    allEmpty (front ++ back) = (allEmpty front && allEmpty back) := by
  rw [Bool.eq_iff_iff, Bool.and_eq_true, allEmpty_iff, allEmpty_iff, allEmpty_iff,
    List.forall_mem_append]

theorem allTabsEmpty_append (front back : List (String × List Content)) :
    allTabsEmpty (front ++ back) = (allTabsEmpty front && allTabsEmpty back) := by
  rw [Bool.eq_iff_iff, Bool.and_eq_true, allTabsEmpty_iff, allTabsEmpty_iff, allTabsEmpty_iff,
    List.forall_mem_append]

theorem writeAll_append (newline : String) (front back : List Content) (atLineStart : Bool) :
    writeAll newline (front ++ back) atLineStart =
      (writeAll newline front atLineStart).andThen (writeAll newline back) := by
  induction front generalizing atLineStart with
  | nil =>
      rw [List.nil_append, writeAll, Written.andThen, String.empty_append]
  | cons child rest ih =>
      rw [List.cons_append, writeAll, writeAll]
      split
      · exact ih atLineStart
      · rw [ih true, Written.andThen, Written.andThen, String.append_assoc]

theorem writeTabs_append (newline : String) (front back : List (String × List Content)) :
    writeTabs newline (front ++ back) = writeTabs newline front ++ writeTabs newline back := by
  induction front with
  | nil => rw [List.nil_append, writeTabs, String.empty_append]
  | cons tab rest ih =>
      rw [List.cons_append, writeTabs, writeTabs, ih]
      split
      · rfl
      · simp only [String.append_assoc]

theorem writeAll_singleton (newline : String) (child : Content) (atLineStart : Bool) :
    writeAll newline [child] atLineStart =
      if child.isEmpty then ⟨"", atLineStart⟩
      else ⟨(child.write newline atLineStart).closed newline, true⟩ := by
  simp only [writeAll, String.append_empty]

/-- Children that show something are closed, and others leave the cursor where it was. -/
theorem atLineStart_writeAll (newline : String) (children : List Content) (atLineStart : Bool) :
    (writeAll newline children atLineStart).atLineStart = (atLineStart || !allEmpty children) := by
  induction children generalizing atLineStart with
  | nil => simp [writeAll, allEmpty]
  | cons child rest ih =>
      rw [writeAll, allEmpty]
      split
      · rename_i child_empty
        rw [ih, child_empty, Bool.true_and]
      · rename_i child_shows
        rw [ih, Bool.eq_false_iff.mpr child_shows]
        simp

theorem writeAll_of_allEmpty (newline : String) {children : List Content}
    (all_empty : allEmpty children = true) (atLineStart : Bool) :
    writeAll newline children atLineStart = ⟨"", atLineStart⟩ := by
  induction children with
  | nil => rfl
  | cons child rest ih =>
      rw [allEmpty, Bool.and_eq_true] at all_empty
      rw [writeAll, if_pos all_empty.1, ih all_empty.2]

end Content

end RefDocs
