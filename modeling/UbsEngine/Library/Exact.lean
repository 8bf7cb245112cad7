import UbsEngine.Library.Packed

/-!
# Readers that refuse too much, or just enough

A writer may write more than its reader is ready to read. Between the two stands a limit: what is
within it is read back, and what is not is refused (`UbsEngine.Packed.Exact`). Limits are put
together as the fields are (`UbsEngine.Packed.Exact.bind`, `UbsEngine.Packed.exact_timesList`), so
that one knows of a whole message when it survives and when it does not
(`UbsEngine.Packed.Exact.readAll_iff`).
-/

namespace UbsEngine

namespace Packed

variable {ε α β : Type}

/-- The bytes are read back as the value if it is within the limit, and refused otherwise, whatever
comes after them. -/
structure Exact (p : Reader ε α) (bs : List UInt8) (a : α) (limit : Prop) : Prop where
  reads : limit → Reads p bs a
  refuses : ¬limit → ∀ rest, ∃ e, p (bs ++ rest) = .error e

theorem Reads.exact {p : Reader ε α} {bs : List UInt8} {a : α} (h : Reads p bs a) :
    Exact p bs a True :=
  ⟨fun _ => h, fun hnot => absurd trivial hnot⟩

theorem Exact.congr {p : Reader ε α} {bs : List UInt8} {a : α} {limit limit' : Prop}
    (h : Exact p bs a limit) (hiff : limit ↔ limit') : Exact p bs a limit' :=
  ⟨fun hlimit => h.reads (hiff.2 hlimit), fun hnot => h.refuses fun hlimit => hnot (hiff.1 hlimit)⟩

/-- Where a reader refuses, so does what begins with it. -/
theorem bind_error {p : Reader ε α} {q : α → Reader ε β} {bs : List UInt8} {e : ε}
    (h : p bs = .error e) : (p >>= q) bs = .error e := by
  change (p bs >>= fun r => q r.1 r.2) = _
  rw [h]
  rfl

/-- A value within its limit, and then another reader. -/
theorem bind_reads {p : Reader ε α} {q : α → Reader ε β} {bs : List UInt8} {a : α}
    (h : Reads p bs a) (rest : List UInt8) : (p >>= q) (bs ++ rest) = q a rest := by
  change (p (bs ++ rest) >>= fun r => q r.1 r.2) = _
  rw [h rest]
  rfl

/-- **Fields one after another** are within the limits of each. -/
theorem Exact.bind {p : Reader ε α} {q : α → Reader ε β} {bs bs' : List UInt8} {a : α} {b : β}
    {limit limit' : Prop} (hp : Exact p bs a limit) (hq : Exact (q a) bs' b limit') :
    Exact (p >>= q) (bs ++ bs') b (limit ∧ limit') := by
  constructor
  · rintro ⟨hlimit, hlimit'⟩
    exact (hp.reads hlimit).bind (hq.reads hlimit')
  · intro hnot rest
    rw [List.append_assoc]
    by_cases hlimit : limit
    · obtain ⟨e, he⟩ := hq.refuses (fun hlimit' => hnot ⟨hlimit, hlimit'⟩) rest
      exact ⟨e, (bind_reads (hp.reads hlimit) _).trans he⟩
    · obtain ⟨e, he⟩ := hp.refuses hlimit (bs' ++ rest)
      exact ⟨e, bind_error he⟩

/-- The last field, of which the value is made. -/
theorem Exact.map {p : Reader ε α} {bs : List UInt8} {a : α} {limit : Prop} (f : α → β)
    (hp : Exact p bs a limit) : Exact (p >>= fun a => pure (f a)) bs (f a) limit := by
  have h := hp.bind (q := fun a => pure (f a)) (reads_pure (f a)).exact
  rw [List.append_nil] at h
  exact h.congr (and_iff_left trivial)

/-- A check on the way. -/
theorem Exact.check {c : Prop} [Decidable c] (e : ε) {p : Reader ε α} {bs : List UInt8} {a : α}
    {limit : Prop} (hp : Exact p bs a limit) :
    Exact (Packed.check c e >>= fun _ => p) bs a (c ∧ limit) := by
  have hcheck : Exact (Packed.check c e) [] () c :=
    ⟨reads_check e, fun hnot _ => ⟨e, if_neg hnot⟩⟩
  exact hcheck.bind hp

/-- **Things one after another** are within the limit of each. -/
theorem exact_times {p : Reader ε α} {f : α → List UInt8} {limit : α → Prop} (l : List α)
    (h : ∀ a ∈ l, Exact p (f a) a (limit a)) :
    Exact (times p l.length) (l.flatMap f) ⟨l, rfl⟩ (∀ a ∈ l, limit a) := by
  induction l with
  | nil => exact (reads_pure _).exact.congr (iff_of_true trivial nofun)
  | cons a l ih =>
    rw [List.flatMap_cons]
    have hrest := ih fun x hx => h x (List.mem_cons_of_mem a hx)
    exact ((h a List.mem_cons_self).bind (hrest.map _)).congr List.forall_mem_cons.symm

theorem exact_timesList {p : Reader ε α} {f : α → List UInt8} {limit : α → Prop} {n : Nat}
    (l : List α) (hn : l.length = n) (h : ∀ a ∈ l, Exact p (f a) a (limit a)) :
    Exact (timesList p n) (l.flatMap f) l (∀ a ∈ l, limit a) := by
  subst hn
  exact (exact_times l h).map List.Vector.toList

/-- All the bytes are read, and nothing is left. -/
def Reader.readAll (p : Reader ε α) (e : ε) (bs : List UInt8) : Except ε α :=
  match p bs with
  | .ok (a, []) => .ok a
  | .ok (_, _ :: _) => .error e
  | .error e => .error e

/-- **A message is read back as it was just when it is within the limits.** -/
theorem Exact.readAll_iff {p : Reader ε α} {bs : List UInt8} {a : α} {limit : Prop}
    (h : Exact p bs a limit) (e : ε) : p.readAll e bs = .ok a ↔ limit := by
  constructor
  · intro hok
    by_contra hnot
    obtain ⟨e', he⟩ := h.refuses hnot []
    rw [List.append_nil] at he
    rw [Reader.readAll, he] at hok
    cases hok
  · intro hlimit
    have hread := h.reads hlimit []
    rw [List.append_nil] at hread
    rw [Reader.readAll, hread]

end Packed

end UbsEngine
