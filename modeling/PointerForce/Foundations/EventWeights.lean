import PointerForce.Foundations.ServerSentEvents

/-! How much of a stream an event takes. No byte adds more than one to the weight of what has been
decoded, so that data cannot come of fewer bytes than its chunk has. -/

namespace PointerForce.Foundations.ServerSentEvents

def cost (data : Bytes) : ℕ := data.length + 4 * data.count newline

def eventsCost (events : List Bytes) : ℕ := (events.map fun e => cost e + 6).sum

def weight (d : Decoder) : ℕ :=
  eventsCost d.events + d.data.elim 0 (fun e => cost e + 5) + d.line.length

structure Clean (d : Decoder) : Prop where
  line : OneLine d.line
  data : ∀ e ∈ d.data, carriageReturn ∉ e
  events : ∀ e ∈ d.events, carriageReturn ∉ e

section Weights

variable {d : Decoder} {bs data line : Bytes} {b : UInt8}

lemma cost_oneLine (h : OneLine bs) : cost bs = bs.length := by
  rw [cost, List.count_eq_zero_of_not_mem fun hm => (h newline hm).1 rfl]
  rfl

lemma cost_appendData (data : Option Bytes) (h : OneLine bs) :
    cost (appendData data bs) ≤ data.elim 0 (fun e => cost e + 5) + bs.length := by
  cases data with
  | none => simp [appendData, cost_oneLine h]
  | some e =>
    have hv := cost_oneLine h
    rw [cost] at hv
    simp only [appendData, cost, Option.map_some, Option.getD_some, Option.elim_some,
      List.length_append, List.length_cons, List.count_append, List.count_cons_self]
    omega

lemma fieldValue_sublist (line : Bytes) :
    List.Sublist (fieldValue line) (line.dropWhile (· != colon)) := by
  rw [fieldValue]
  split
  · exact (List.drop_sublist _ _).trans (List.drop_sublist _ _)
  · exact List.drop_sublist _ _

lemma length_fieldValue (h : fieldName line = utf8 "data") :
    (fieldValue line).length + 4 ≤ line.length := by
  have hsplit : (fieldName line).length + (line.dropWhile (· != colon)).length = line.length := by
    rw [← List.length_append]
    exact congrArg List.length List.takeWhile_append_dropWhile
  have hname : (fieldName line).length = 4 := by
    rw [h]
    decide
  have hvalue := (fieldValue_sublist line).length_le
  omega

lemma oneLine_fieldValue (h : OneLine line) : OneLine (fieldValue line) := fun b hb =>
  h b ((List.dropWhile_sublist _).subset ((fieldValue_sublist line).subset hb))

lemma eventsCost_append (es : List Bytes) (data : Option Bytes) :
    eventsCost (es ++ data.toList) = eventsCost es + data.elim 0 fun e => cost e + 6 := by
  cases data <;> simp [eventsCost]

lemma weight_endLine (hc : Clean d) : weight (endLine d) ≤ weight d + 1 := by
  rw [endLine]
  split
  · rw [weight, weight, eventsCost_append]
    cases d.data <;> simp only [Option.elim_none, Option.elim_some] <;> omega
  · split
    · next hname =>
      have hcost := cost_appendData d.data (oneLine_fieldValue hc.line)
      have hvalue := length_fieldValue hname
      simp only [weight, Option.elim_some, List.length_nil]
      omega
    · simp only [weight, List.length_nil]
      omega

lemma clean_appendData {data : Option Bytes} (hd : ∀ e ∈ data, carriageReturn ∉ e)
    (h : OneLine bs) : carriageReturn ∉ appendData data bs := by
  have hbs : carriageReturn ∉ bs := fun hm => (h _ hm).2 rfl
  cases data with
  | none => exact hbs
  | some e =>
    simp only [appendData, Option.map_some, Option.getD_some, List.mem_append, List.mem_cons, not_or]
    exact ⟨hd e rfl, by decide, hbs⟩

lemma clean_endLine (hc : Clean d) : Clean (endLine d) := by
  have hnil : OneLine [] := by decide
  rw [endLine]
  split
  · refine ⟨hc.line, by simp, fun e he => ?_⟩
    rcases List.mem_append.mp he with he | he
    · exact hc.events e he
    · exact hc.data e (Option.mem_toList.mp he)
  · split
    · refine ⟨hnil, fun e he => ?_, hc.events⟩
      obtain rfl := Option.some.inj he
      exact clean_appendData hc.data (oneLine_fieldValue hc.line)
    · exact ⟨hnil, hc.data, hc.events⟩

lemma clean_feed (hc : Clean d) : Clean (feed d b) := by
  rw [feed]
  split_ifs with hn hr hcr
  · exact ⟨hc.line, hc.data, hc.events⟩
  · exact clean_endLine hc
  · exact ⟨(clean_endLine hc).line, (clean_endLine hc).data, (clean_endLine hc).events⟩
  · refine ⟨fun c hm => ?_, hc.data, hc.events⟩
    rcases List.mem_append.mp hm with hm | hm
    · exact hc.line c hm
    · obtain rfl := List.mem_singleton.mp hm
      exact ⟨hn, hcr⟩

lemma weight_feed (hc : Clean d) : weight (feed d b) ≤ weight d + 1 := by
  rw [feed]
  split_ifs
  · exact Nat.le_succ _
  · exact weight_endLine hc
  · exact weight_endLine hc
  · simp only [weight, List.length_append, List.length_singleton]
    omega

lemma clean_start : Clean {} := ⟨by decide, by simp, by simp⟩

lemma clean_read (hc : Clean d) (bs : Bytes) : Clean (read d bs) := by
  induction bs generalizing d with
  | nil => exact hc
  | cons b bs ih => exact ih (clean_feed hc)

lemma weight_read (hc : Clean d) (bs : Bytes) : weight (read d bs) ≤ weight d + bs.length := by
  induction bs generalizing d with
  | nil => exact Nat.le_refl _
  | cons b bs ih =>
    have hfeed := weight_feed (b := b) hc
    have hrest := ih (clean_feed (b := b) hc)
    rw [List.length_cons]
    exact hrest.trans (by omega)

end Weights

section Chunks

variable {d : Decoder} {bs data : Bytes} {b : UInt8}

lemma first_line (bs : Bytes) : OneLine bs ∨ ∃ text b rest, bs = text ++ b :: rest ∧
    OneLine text ∧ (b = newline ∨ b = carriageReturn) := by
  induction bs with
  | nil => exact .inl nofun
  | cons b bs ih =>
    by_cases hb : b ≠ newline ∧ b ≠ carriageReturn
    · rcases ih with h | ⟨text, c, rest, rfl, h, hc⟩
      · exact .inl (List.forall_mem_cons.mpr ⟨hb, h⟩)
      · exact .inr ⟨b :: text, c, rest, rfl, List.forall_mem_cons.mpr ⟨hb, h⟩, hc⟩
    · refine .inr ⟨[], b, bs, rfl, nofun, ?_⟩
      rwa [← not_not (a := b = newline ∨ b = carriageReturn), not_or]

lemma weight_lineEnd (hd : d.returned = false) (hb : b = newline ∨ b = carriageReturn) :
    weight (feed d b) = weight (endLine d) := by
  rcases hb with rfl | rfl
  · rw [feed_newline hd]
  · rfl

lemma weight_first_line (hd : Idle d) {text : Bytes} (htext : OneLine text)
    (hb : b = newline ∨ b = carriageReturn) :
    weight (feed { d with line := d.line ++ (utf8 "data: " ++ text) } b) =
      eventsCost d.events + if d.line = [] then text.length + 5 else 0 := by
  refine (weight_lineEnd ?_ hb).trans ?_
  · exact hd.returned
  rcases hd.line with hline | ⟨begun, hline⟩
  · have hdata := @endLine_data { d with line := d.line ++ (utf8 "data: " ++ text) } hd.data text
      (by rw [hline, List.nil_append])
    rw [hdata, if_pos hline, weight, Option.elim_some, cost_oneLine htext]
    rfl
  · have hcomment := @endLine_comment { d with line := d.line ++ (utf8 "data: " ++ text) }
      (begun ++ (utf8 "data: " ++ text)) (by rw [hline]; rfl)
    rw [hcomment, if_neg (by simp [hline]), weight, hd.data]
    rfl

lemma first_line_of_chunk {n : ℕ} {text rest : Bytes} (hb : b = newline ∨ b = carriageReturn)
    (h : (event data).take n = text ++ b :: rest) : ∃ text', text = utf8 "data: " ++ text' := by
  have hword : OneLine (utf8 "data: ") := by decide
  have htext : text ++ [b] <+: event data := by
    refine List.IsPrefix.trans ⟨rest, ?_⟩ (List.take_prefix n _)
    rw [h, List.append_assoc]
    rfl
  have hdata : utf8 "data: " <+: event data := ⟨data ++ [newline, newline], by simp [event]⟩
  rcases List.prefix_or_prefix_of_prefix htext hdata with hshort | hlong
  · have hmem := hword b (hshort.subset (by simp))
    exact absurd hb (by simp [hmem])
  · rcases List.prefix_concat_iff.mp hlong with he | ⟨text', he⟩
    · have hmem := hword b (by simp [he])
      exact absurd hb (by simp [hmem])
    · exact ⟨text', he.symm⟩

lemma length_event (data : Bytes) : (event data).length = data.length + 8 := by
  rw [event, List.length_append, List.length_append, show (utf8 "data: ").length = 6 by decide,
    show [newline, newline].length = 2 from rfl]
  omega

lemma weight_of_events {es : List Bytes} (h : d.events = es ++ [data]) :
    eventsCost es + cost data + 6 ≤ weight d := by
  have he := eventsCost_append es (some data)
  rw [Option.toList_some, Option.elim_some] at he
  rw [weight, h, he]
  omega

theorem chunk_of_event (hd : Idle d) (hc : Clean d) {n : ℕ}
    (h : (read d ((event data).take n)).events = d.events ++ [data]) :
    d.line = [] ∧ OneLine data ∧ (event data).length ≤ n := by
  rcases first_line ((event data).take n) with hline | ⟨text, b, rest, hsplit, htext, hb⟩
  · rw [read_oneLine hd.returned hline] at h
    exact absurd (congrArg List.length h) (by simp)
  · obtain ⟨text, rfl⟩ := first_line_of_chunk hb hsplit
    have hread : read d ((event data).take n) =
        read (feed (read d (utf8 "data: " ++ text)) b) rest := by
      rw [hsplit, read_append]
      rfl
    have hclean := clean_feed (b := b) (clean_read hc (utf8 "data: " ++ text))
    have hrest := weight_read hclean rest
    rw [← hread, read_oneLine hd.returned htext,
      weight_first_line hd (fun c hm => htext c (List.mem_append_right _ hm)) hb] at hrest
    have hevents := weight_of_events h
    have hlength := congrArg List.length hsplit
    rw [List.length_take, length_event, List.length_append, List.length_append, List.length_cons,
      show (utf8 "data: ").length = 6 by decide] at hlength
    rw [cost] at hevents
    by_cases hopen : d.line = []
    · rw [if_pos hopen] at hrest
      have hcount : data.count newline = 0 := by omega
      have hcr : carriageReturn ∉ data := by
        refine (clean_read hc ((event data).take n)).events data ?_
        rw [h]
        exact List.mem_append_right _ List.mem_cons_self
      refine ⟨hopen, fun c hm => ⟨?_, ?_⟩, ?_⟩
      · rintro rfl
        exact List.count_eq_zero.mp hcount hm
      · rintro rfl
        exact hcr hm
      · rw [length_event]
        omega
    · rw [if_neg hopen] at hrest
      omega

end Chunks

end PointerForce.Foundations.ServerSentEvents
