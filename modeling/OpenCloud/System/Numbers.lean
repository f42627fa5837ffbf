import OpenCloud.System.Issuing

/-!
# The numbers of concurrent issues

Each call takes the highest number it sees plus one, and the unique constraint refuses a number that
is taken.  No lock is held, so a number a call has read can be stale when it inserts.  What makes
the numbers dense all the same is that a row waiting to be committed always carries the number after
the committed ones of its year (`Numbered.next`): a smaller one clashes with a committed row, and a
larger one is never read.  Two rows of a year therefore never wait together.

## Main results

* `numbered_step` : every step keeps the numbering.
* `numbers_without_gap` : in every run of any calls, with any of them failing anywhere, the
  committed invoices of a year carry the numbers `1, …, n`, and a call that fails leaves no row.
-/

namespace OpenCloud

variable {ι : Type*} [DecidableEq ι] {c : Casing} {s : Settings} {calls : ι → Call}
  {st st' : Store ι Row IssueState} {e : TxEvent ι} {i : ι}

/-- The number of committed invoices of a year. -/
def committedIn (st : Store ι Row IssueState) (year : ℕ) : ℕ :=
  (ofYear year (invoicesOf st.rows)).length

/-- What a call has written, and the number it is about to write, where it stands; `n` is the number
of committed invoices of its year. -/
def Here (call : Call) (own : List Row) (n : ℕ) : IssueState → Prop
  | .inserting _ seq number =>
    own = [] ∧ number = numberOf call.month.year seq ∧ 1 ≤ seq ∧ seq ≤ n + 1
  | .lining _ => ∃ row, own = [.invoice row]
  | .serializing _ | .returningNew _ =>
    ∃ (row : Invoice) (lines : List InvoiceLine), own = .invoice row :: lines.map .line
  -- lines clash with nothing
  | .raising _ => False
  | _ => own = []

/-- The invariant of the numbers. -/
structure Numbered (calls : ι → Call) (st : Store ι Row IssueState) : Prop where
  named : ∀ inv ∈ invoicesOf st.all, inv.Named
  placed : ∀ year, (ofYear year (invoicesOf st.rows)).map Invoice.numberSeq =
    List.range' 1 (committedIn st year)
  next : ∀ inv ∈ invoicesOf (st.pending.map Prod.snd), inv.numberSeq = committedIn st inv.year + 1
  here : ∀ i, Here (calls i) (st.own i) (committedIn st (calls i).month.year) (st.ctl i)
  kept : ∀ i r, (some i, r) ∈ st.committed → ∃ doc, st.ctl i = .done (.ok doc)

/-- No two rows clash. -/
def Apart (st : Store ι Row IssueState) : Prop := st.all.Pairwise fun a b => ¬ Row.Clash a b

theorem Here.mono {call : Call} {own : List Row} {n n' : ℕ} {k : IssueState} (h : Here call own n k)
    (hn : n ≤ n') : Here call own n' k := by
  cases k with
  | inserting attempts seq number =>
    obtain ⟨hown, hnumber, hpos, hle⟩ := h
    exact ⟨hown, hnumber, hpos, by omega⟩
  | _ => exact h

theorem here_of_step
    (h : ∀ j, Here (calls j) (st.own j) (committedIn st (calls j).month.year) (st.ctl j))
    (hctl : ∀ j, j ≠ i → st'.ctl j = st.ctl j) (hown : ∀ j, j ≠ i → st'.own j = st.own j)
    (hcount : ∀ year, committedIn st year ≤ committedIn st' year)
    (hi : Here (calls i) (st'.own i) (committedIn st' (calls i).month.year) (st'.ctl i)) (j : ι) :
    Here (calls j) (st'.own j) (committedIn st' (calls j).month.year) (st'.ctl j) := by
  by_cases hj : j = i
  · rw [hj]
    exact hi
  · rw [hctl j hj, hown j hj]
    exact (h j).mono (hcount _)

theorem kept_of_step (h : ∀ j r, (some j, r) ∈ st.committed → ∃ doc, st.ctl j = .done (.ok doc))
    (hlive : ∀ doc, st.ctl i ≠ .done (.ok doc)) (hctl : ∀ j, j ≠ i → st'.ctl j = st.ctl j)
    (j : ι) (r : Row) (hr : (some j, r) ∈ st.committed) : ∃ doc, st'.ctl j = .done (.ok doc) := by
  obtain ⟨doc, hdoc⟩ := h j r hr
  by_cases hj : j = i
  · exact absurd (hj ▸ hdoc) (hlive doc)
  · exact ⟨doc, (hctl j hj).trans hdoc⟩

namespace Numbered

theorem goto {k : IssueState} (h : Numbered calls st) (hlive : ∀ doc, st.ctl i ≠ .done (.ok doc))
    (hi : Here (calls i) (st.own i) (committedIn st (calls i).month.year) k) :
    Numbered calls (st.goto i k) where
  named := h.named
  placed := h.placed
  next := h.next
  here := by
    refine here_of_step h.here (fun j hj => Store.ctl_goto_of_ne hj) (fun j _ => rfl)
      (fun _ => le_rfl) ?_
    rw [Store.ctl_goto_self]
    exact hi
  kept _ _ hr := kept_of_step h.kept hlive (fun j hj => Store.ctl_goto_of_ne hj) _ _ hr

/-- A step that drops what the call has written. -/
theorem drop {k : IssueState} (h : Numbered calls st) (hlive : ∀ doc, st.ctl i ≠ .done (.ok doc))
    (hi : Here (calls i) [] (committedIn st (calls i).month.year) k) :
    Numbered calls ((st.drop i).goto i k) where
  named := by
    intro inv hinv
    refine h.named inv (mem_invoicesOf.2 ?_)
    rcases List.mem_append.1 (mem_invoicesOf.1 hinv) with hinv | hinv
    · exact List.mem_append_left _ hinv
    · exact List.mem_append_right _ ((List.filter_sublist.map Prod.snd).subset hinv)
  placed := h.placed
  next := by
    intro inv hinv
    exact h.next inv
      (mem_invoicesOf.2 ((List.filter_sublist.map Prod.snd).subset (mem_invoicesOf.1 hinv)))
  here := by
    refine here_of_step h.here (fun j hj => Store.ctl_goto_of_ne hj)
      (fun j hj => Store.own_drop_of_ne hj) (fun _ => le_rfl) ?_
    rw [Store.ctl_goto_self, Store.own_goto, Store.own_drop_self]
    exact hi
  kept _ _ hr := kept_of_step h.kept hlive (fun j hj => Store.ctl_goto_of_ne hj) _ _ hr

/-- A step that writes lines. -/
theorem createLines {rows : List InvoiceLine} {inv : Invoice} (h : Numbered calls st)
    (hctl : st.ctl i = .lining inv) :
    Numbered calls ((st.addRows i (rows.map .line)).goto i (.serializing inv)) where
  named := by
    have hall : ((st.addRows i (rows.map .line)).goto i (.serializing inv)).all =
        st.all ++ rows.map .line := by
      simp [Store.all, Store.addRows, Store.rows, Function.comp_def]
    rw [hall, invoicesOf_append, invoicesOf_map_line, List.append_nil]
    exact h.named
  placed := h.placed
  next := by
    have hpending :
      ((st.addRows i (rows.map .line)).goto i (.serializing inv)).pending.map Prod.snd =
        st.pending.map Prod.snd ++ rows.map .line := by
      simp [Store.addRows, Function.comp_def]
    rw [hpending, invoicesOf_append, invoicesOf_map_line, List.append_nil]
    exact h.next
  here := by
    refine here_of_step h.here (fun j hj => Store.ctl_goto_of_ne hj)
      (fun j hj => Store.own_addRows_of_ne hj) (fun _ => le_rfl) ?_
    obtain ⟨row, hown⟩ : ∃ row, st.own i = [.invoice row] := by
      have := h.here i
      rwa [hctl] at this
    rw [Store.ctl_goto_self, Store.own_goto, Store.own_addRows_self, hown]
    exact ⟨row, rows, rfl⟩
  kept _ _ hr := kept_of_step h.kept (by simp [hctl]) (fun j hj => Store.ctl_goto_of_ne hj) _ _ hr

theorem exists_of_le (h : Numbered calls st) {year seq : ℕ} (hpos : 1 ≤ seq)
    (hle : seq ≤ committedIn st year) :
    ∃ inv ∈ invoicesOf st.rows, inv.number = numberOf year seq := by
  have hseq : seq ∈ (ofYear year (invoicesOf st.rows)).map Invoice.numberSeq := by
    rw [h.placed year, List.mem_range'_1]
    omega
  obtain ⟨inv, hinv, rfl⟩ := List.mem_map.1 hseq
  obtain ⟨hmem, hyear⟩ := List.mem_filter.1 hinv
  refine ⟨inv, hmem, ?_⟩
  rw [h.named inv (mem_invoicesOf.2 (List.mem_append_left _ (mem_invoicesOf.1 hmem))),
    of_decide_eq_true hyear]

/-- A step that writes an invoice: it carries the number after the committed ones. -/
theorem create {attempts seq : ℕ} {number : String} {row : Invoice} (h : Numbered calls st)
    (hctl : st.ctl i = .inserting attempts seq number)
    (hsaved : ((calls i).invoice c s number seq).saved = some row)
    (hrows : ¬ Conflict Row.Clash [.invoice row] st.rows) :
    Numbered calls
      ((st.addRows i [.invoice row]).goto i (.lining ((calls i).invoice c s number seq))) := by
  obtain ⟨hown, hnumber, hpos, hle⟩ : st.own i = [] ∧ number = numberOf (calls i).month.year seq ∧
      1 ≤ seq ∧ seq ≤ committedIn st (calls i).month.year + 1 := by
    have := h.here i
    rwa [hctl] at this
  have hrow := (Invoice.saved_spec hsaved).1
  have hyear : row.year = (calls i).month.year := by
    rw [hrow]
    rfl
  have hnumber' : row.number = numberOf row.year seq := by
    rw [hyear, ← hnumber, hrow]
    rfl
  have hseq : row.numberSeq = seq := by
    rw [hrow]
    rfl
  -- a smaller number would clash with a committed row
  have hnext : row.numberSeq = committedIn st row.year + 1 := by
    by_contra hne
    have hle : seq ≤ committedIn st row.year := by rw [hyear] at hne ⊢; omega
    obtain ⟨inv, hinv, htaken⟩ := h.exists_of_le hpos hle
    exact hrows ⟨_, List.mem_singleton_self _, .invoice inv, mem_invoicesOf.1 hinv,
      .inl (hnumber'.trans htaken.symm)⟩
  have hall :
    ((st.addRows i [.invoice row]).goto i (.lining ((calls i).invoice c s number seq))).all =
      st.all ++ [.invoice row] := by
    simp [Store.all, Store.addRows, Store.rows]
  have hpending : ((st.addRows i [.invoice row]).goto i
      (.lining ((calls i).invoice c s number seq))).pending.map Prod.snd =
        st.pending.map Prod.snd ++ [.invoice row] := by
    simp [Store.addRows]
  refine ⟨?_, h.placed, ?_, ?_, ?_⟩
  · rw [hall, invoicesOf_append]
    intro inv hinv
    rcases List.mem_append.1 hinv with hinv | hinv
    · exact h.named inv hinv
    · rw [List.mem_singleton.1 hinv, Invoice.Named, hseq]
      exact hnumber'
  · rw [hpending, invoicesOf_append]
    intro inv hinv
    rcases List.mem_append.1 hinv with hinv | hinv
    · exact h.next inv hinv
    · rw [List.mem_singleton.1 hinv]
      exact hnext
  · refine here_of_step h.here (fun j hj => Store.ctl_goto_of_ne hj)
      (fun j hj => Store.own_addRows_of_ne hj) (fun _ => le_rfl) ?_
    rw [Store.ctl_goto_self, Store.own_goto, Store.own_addRows_self, hown]
    exact ⟨row, rfl⟩
  · intro j r hr
    exact kept_of_step h.kept (by simp [hctl]) (fun j hj => Store.ctl_goto_of_ne hj) j r hr

/-- A commit: the row published is the next of its year. -/
theorem publish {doc : Document} (h : Numbered calls st) (hlive : ∀ doc, st.ctl i ≠ .done (.ok doc))
    (hown : invoicesOf (st.own i) = [] ∨ ∃ row, invoicesOf (st.own i) = [row])
    (hapart : Apart ((st.publish i).goto i (.done (.ok doc)))) :
    Numbered calls ((st.publish i).goto i (.done (.ok doc))) := by
  have hpending : ∀ inv ∈ invoicesOf ((st.drop i).pending.map Prod.snd),
      inv ∈ invoicesOf (st.pending.map Prod.snd) := fun inv hinv =>
    mem_invoicesOf.2 ((List.filter_sublist.map Prod.snd).subset (mem_invoicesOf.1 hinv))
  have hrows : invoicesOf ((st.publish i).goto i (.done (.ok doc))).rows =
      invoicesOf st.rows ++ invoicesOf (st.own i) := by
    rw [Store.rows_goto, Store.rows_publish, invoicesOf_append]
  have hcount : ∀ year, committedIn ((st.publish i).goto i (.done (.ok doc))) year =
      committedIn st year + (ofYear year (invoicesOf (st.own i))).length := by
    intro year
    rw [committedIn, hrows, ofYear, List.filter_append, List.length_append]
    rfl
  refine ⟨?_, ?_, ?_, ?_, ?_⟩
  · intro inv hinv
    refine h.named inv (mem_invoicesOf.2 (List.mem_append.2 ?_))
    rcases List.mem_append.1 (mem_invoicesOf.1 hinv) with hinv | hinv
    · rw [Store.rows_goto, Store.rows_publish] at hinv
      rcases List.mem_append.1 hinv with hinv | hinv
      · exact .inl hinv
      · exact .inr ((st.sublist_own i).subset hinv)
    · exact .inr ((List.filter_sublist.map Prod.snd).subset hinv)
  · intro year
    rw [hcount, hrows, ofYear, List.filter_append, List.map_append]
    change (ofYear year _).map _ ++ (ofYear year _).map _ = _
    rw [h.placed year]
    rcases hown with hown | ⟨row, hown⟩
    · simp [hown, ofYear]
    · have hmem : row ∈ invoicesOf (st.own i) := by simp [hown]
      have hnext := h.next row
        (mem_invoicesOf.2 ((st.sublist_own i).subset (mem_invoicesOf.1 hmem)))
      rw [hown]
      by_cases hyear : row.year = year
      · -- the row takes the place after the committed ones of its year
        subst hyear
        simp only [ofYear, List.filter_cons, List.filter_nil, decide_true, ↓reduceIte,
          List.map_cons, List.map_nil, List.length_cons, List.length_nil, hnext, Nat.zero_add]
        rw [List.range'_concat, Nat.one_mul, Nat.add_comm]
      · simp [ofYear, hyear]
  · intro inv hinv
    rw [Store.pending_goto, Store.pending_publish] at hinv
    rw [h.next inv (hpending inv hinv), hcount]
    rcases hown with hown | ⟨row, hown⟩
    · simp [hown, ofYear]
    · rw [hown]
      by_cases hyear : row.year = inv.year
      · -- both rows of the year would carry the same number
        have hrow : row ∈ invoicesOf (st.own i) := by simp [hown]
        have hrow' := (st.sublist_own i).subset (mem_invoicesOf.1 hrow)
        have hinv' := mem_invoicesOf.1 (hpending inv hinv)
        have hclash : row.number = inv.number := by
          rw [h.named row (mem_invoicesOf.2 (List.mem_append_right _ hrow')),
            h.named inv (mem_invoicesOf.2 (List.mem_append_right _ hinv')),
            h.next row (mem_invoicesOf.2 hrow'), h.next inv (mem_invoicesOf.2 hinv'), hyear]
        refine absurd ?_ ((List.pairwise_append.1 hapart).2.2 (.invoice row) ?_ (.invoice inv) ?_)
        · exact .inl hclash
        · rw [Store.rows_goto, Store.rows_publish]
          exact List.mem_append_right _ (mem_invoicesOf.1 hrow)
        · exact mem_invoicesOf.1 hinv
      · simp [ofYear, hyear]
  · refine here_of_step h.here (fun j hj => Store.ctl_goto_of_ne hj)
      (fun j hj => Store.own_drop_of_ne hj) (fun year => ?_) ?_
    · rw [hcount]
      omega
    · rw [Store.ctl_goto_self, Store.own_goto, Store.own_publish, Store.own_drop_self]
      rfl
  · intro j r hr
    rcases List.mem_append.1 hr with hr | hr
    · exact kept_of_step h.kept hlive (fun j hj => Store.ctl_goto_of_ne hj) j r hr
    · obtain ⟨r', -, heq⟩ := List.mem_map.1 hr
      obtain rfl : i = j := by simpa using congrArg Prod.fst heq
      exact ⟨doc, Store.ctl_goto_self⟩

end Numbered

theorem apart_step (h : (issues c s calls).step st e st') (hst : Apart st) : Apart st' := by
  refine pairwise_step (fun _ _ => Row.Clash.symm) (fun i k rows ok dup hprog => ?_) h hst
  rcases insert_cases hprog with ⟨_, _, _, _, -, -, rfl, -⟩ | ⟨_, lines, -, -, rfl, -⟩
  · exact List.pairwise_singleton _ _
  · rw [List.pairwise_map]
    exact List.pairwise_of_forall fun _ _ h => h

/-- Every step keeps the numbering. -/
theorem numbered_step (hstep : (issues c s calls).step st e st') (hapart : Apart st)
    (h : Numbered calls st) : Numbered calls st' := by
  have hapart' := apart_step hstep hapart
  cases issues_cases hstep with
  | @find i _ hctl _ =>
    have hown := h.here i
    rw [hctl] at hown
    exact h.goto (by simp [hctl]) hown
  | @miss i hctl _ =>
    have hown := h.here i
    rw [hctl] at hown
    exact h.goto (by simp [hctl]) hown
  | @readExisting i _ hctl =>
    have hown := h.here i
    rw [hctl] at hown
    exact h.goto (by simp [hctl]) hown
  | @returnExisting i _ hctl =>
    have hown := h.here i
    rw [hctl] at hown
    exact h.publish (by simp [hctl]) (.inl (by rw [show st.own i = [] from hown, invoicesOf_nil]))
      hapart'
  | @exhaust i hctl => exact h.drop (by simp [hctl]) rfl
  | @choose i attempts hctl =>
    have hown : st.own i = [] := by
      have := h.here i
      rwa [hctl] at this
    -- the call sees the committed rows, and the next place is after theirs
    have hvisible : st.visible i = st.rows := by rw [Store.visible, hown, List.append_nil]
    have hseq : (nextNumber (invoicesOf st.rows) (calls i).month.year).1 =
        committedIn st (calls i).month.year + 1 :=
      nextNumber_of_range
        (fun inv hinv =>
          h.named inv (mem_invoicesOf.2 (List.mem_append_left _ (mem_invoicesOf.1 hinv))))
        (h.placed _)
    rw [hvisible]
    refine h.goto (by simp [hctl]) ⟨hown, nextNumber_snd, ?_, ?_⟩ <;> omega
  | refuse hctl _ => exact h.drop (by simp [hctl]) rfl
  | @clash i _ _ _ _ hctl _ _ =>
    have hown := h.here i
    rw [hctl] at hown
    exact h.goto (by simp [hctl]) hown.1
  | create hctl hsaved hrows _ => exact h.create hctl hsaved hrows
  | refuseLines hctl _ => exact h.drop (by simp [hctl]) rfl
  | createLines hctl _ => exact h.createLines hctl
  | @readNew i _ hctl =>
    have hown := h.here i
    rw [hctl] at hown
    exact h.goto (by simp [hctl]) hown
  | @returnNew i _ hctl =>
    have hown := h.here i
    rw [hctl] at hown
    obtain ⟨row, lines, hown⟩ := hown
    refine h.publish (by simp [hctl]) (.inr ⟨row, ?_⟩) hapart'
    rw [hown, invoicesOf_cons_invoice, invoicesOf_map_line]
  | raise hctl => exact h.drop (by simp [hctl]) rfl
  | lose hlive => exact h.drop (fun doc => hlive _) rfl

theorem numbered_opened : Numbered calls (opened InvoiceBook.empty) where
  named inv hinv := by simp [opened, Store.all, Store.rows, InvoiceBook.empty] at hinv
  placed year := by simp [opened, committedIn, Store.rows, InvoiceBook.empty, ofYear]
  next inv hinv := by simp [opened] at hinv
  here i := by simp [opened, Here, Store.own]
  kept i r hr := by simp [opened, InvoiceBook.empty] at hr

/-- A call whose transaction has ended without an answer. -/
def IssueState.Failed : IssueState → Prop
  | .done (.error _) | .lost => True
  | _ => False

/-- In every run of any number of calls, with any of them failing anywhere, from a book without
invoices: the committed invoices of a year carry the places `1, …, n`, each number is the one of its
year and place, which it determines, and a call that fails has left no row. -/
theorem numbers_without_gap {es : List (TxEvent ι)}
    (h : (issues c s calls).Run System.Free (opened InvoiceBook.empty) es st) :
    (∀ year, (ofYear year (invoicesOf st.rows)).map Invoice.numberSeq =
      List.range' 1 (ofYear year (invoicesOf st.rows)).length) ∧
    (∀ inv ∈ invoicesOf st.rows, inv.number = numberOf inv.year inv.numberSeq) ∧
    (∀ year seq year' seq', (year, seq) ≠ (year', seq') → numberOf year seq ≠ numberOf year' seq') ∧
    ∀ i, (st.ctl i).Failed → (∀ r, (some i, r) ∉ st.committed) ∧ st.own i = [] := by
  obtain ⟨hnumbered, -⟩ := h.keeps (I := fun st => Numbered calls st ∧ Apart st)
    ⟨numbered_opened, by simp [Apart, opened, Store.all, Store.rows, InvoiceBook.empty]⟩
    fun _ _ _ hi hstep => ⟨numbered_step hstep hi.2 hi.1, apart_step hstep hi.2⟩
  refine ⟨hnumbered.placed, fun inv hinv => ?_, fun year seq year' seq' hne heq => ?_,
    fun i hi => ?_⟩
  · exact hnumbered.named inv (mem_invoicesOf.2 (List.mem_append_left _ (mem_invoicesOf.1 hinv)))
  · obtain ⟨rfl, rfl⟩ := numberOf_inj heq
    exact hne rfl
  · constructor
    · intro r hr
      obtain ⟨doc, hdoc⟩ := hnumbered.kept i r hr
      rw [hdoc] at hi
      exact hi
    · have hown := hnumbered.here i
      cases hctl : st.ctl i <;> rw [hctl] at hi hown
      case done answer => exact hown
      case lost => exact hown
      all_goals exact hi.elim

/-- Three accounts: the third writes its invoice and is lost, then the first two read the same
number, and the second inserts it too late. -/
def crossing : List (TxEvent (Fin 3)) :=
  [.run 2, .run 2, .run 2, .fail 2, .run 0, .run 1, .run 0, .run 1, .run 0, .run 0, .run 0, .run 0,
    .run 1, .run 1, .run 1, .run 1, .run 1, .run 1]

theorem numbers_without_gap_of_crossing :
    let calls : Fin 3 → Call :=
  fun i => augustCall (if i = 0 then "Acme" else if i = 1 then "Umbrella" else "Lost")
    ∃ st, (issues .ascii plainSettings calls).Run System.Free
      (opened InvoiceBook.empty) crossing st ∧
      ((invoicesOf st.rows).map fun inv => (inv.account, inv.number)) =
        [("Acme", "СФ-2026-0001"), ("Umbrella", "СФ-2026-0002")] ∧
      (ofYear 2026 (invoicesOf st.rows)).map Invoice.numberSeq = List.range' 1 2 ∧
      ∀ r, (some 2, r) ∉ st.committed := by
  intro calls
  have hplay : (playIssues .ascii plainSettings calls System.Free InvoiceBook.empty crossing).map
      (fun st => ((invoicesOf st.rows).map fun inv => (inv.account, inv.number),
        (ofYear 2026 (invoicesOf st.rows)).length, st.ctl 2)) =
      some ([("Acme", "СФ-2026-0001"), ("Umbrella", "СФ-2026-0002")], 2, .lost) := by decide +kernel
  obtain ⟨st, hst, heq⟩ := Option.map_eq_some_iff.1 hplay
  simp only [Prod.mk.injEq] at heq
  obtain ⟨hnumbers, hcount, hlost⟩ := heq
  obtain ⟨hplaces, -, -, hfailed⟩ := numbers_without_gap (System.Run.of_exec hst)
  refine ⟨st, System.Run.of_exec hst, hnumbers, ?_, (hfailed 2 ?_).1⟩
  · rw [hplaces, hcount]
  · rw [hlost]
    trivial

end OpenCloud
