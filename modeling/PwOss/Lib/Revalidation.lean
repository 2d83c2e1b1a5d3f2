/-
  Caches that are revalidated by tags.

  A source has contents under keys and a tag for each key. Its notices carry the tags
  of some keys. A cache keeps the last tag that it saw of each key. A notice that brings
  another tag makes the key stale, and the cache reads it again when it likes, from the
  source as it is then.

  `Fresh` is the invariant between the source, a cache and the notices still on their
  way to it: the cache's tags lead through those notices to the source's, and what it
  holds is what the source has, or stale, or renewed by one of them. Every step keeps it
  when a change of contents comes with a notice that brings a new tag (`Announces`), so
  a cache that has seen all notices and read what was stale holds what the source has
  (`Fresh.settled`).
-/

namespace PwOss.Revalidation

variable {κ τ C N : Type}

/-- The last tag of each key that was seen, whether the key is to be read again, and
what was read last. -/
structure Cache (κ τ C : Type) where
  tags : κ → Option τ
  stale : κ → Bool
  view : κ → Option C

/-- A cache that was told nothing. -/
def Cache.empty : Cache κ τ C := ⟨fun _ => none, fun _ => false, fun _ => none⟩

section
variable (tag : N → κ → Option τ)

/-- The tag of a key after the notices. -/
def lastTag (k : κ) : Option τ → List N → Option τ
  | t, [] => t
  | t, n :: notes => lastTag k (tag n k <|> t) notes

/-- One of the notices brings another tag of the key than the one before it. -/
def Renews (k : κ) : Option τ → List N → Prop
  | _, [] => False
  | t, n :: notes => ((tag n k).isSome ∧ tag n k ≠ t) ∨ Renews k (tag n k <|> t) notes

variable {tag}

theorem lastTag_append (k : κ) : ∀ (xs ys : List N) (t : Option τ),
    lastTag tag k t (xs ++ ys) = lastTag tag k (lastTag tag k t xs) ys
  | [], _, _ => rfl
  | _ :: xs, ys, _ => lastTag_append k xs ys _

theorem renews_append (k : κ) : ∀ (xs ys : List N) (t : Option τ),
    Renews tag k t (xs ++ ys) ↔ Renews tag k t xs ∨ Renews tag k (lastTag tag k t xs) ys
  | [], _, _ => by simp only [List.nil_append, Renews, lastTag, false_or]
  | n :: xs, ys, t => by
    simp only [List.cons_append, Renews, lastTag, renews_append k xs ys, or_assoc]

/-- Notices that say nothing of the key. -/
theorem lastTag_silent {k : κ} : ∀ {notes : List N}, (∀ n ∈ notes, tag n k = none) →
    ∀ t, lastTag tag k t notes = t
  | [], _, _ => rfl
  | n :: notes, h, t => by
    have hn : tag n k = none := h n List.mem_cons_self
    have hsame : (tag n k <|> t) = t := by rw [hn]; rfl
    rw [lastTag, hsame]
    exact lastTag_silent (fun m hm => h m (List.mem_cons_of_mem n hm)) t

end

/-- A notice arrives: the keys with a new tag are stale. -/
def Cache.hear [DecidableEq τ] (tag : N → κ → Option τ) (n : N) (c : Cache κ τ C) :
    Cache κ τ C where
  tags k := tag n k <|> c.tags k
  stale k := c.stale k || ((tag n k).isSome && tag n k != c.tags k)
  view := c.view

/-- A key is read. -/
def Cache.read [DecidableEq κ] (k : κ) (v : C) (c : Cache κ τ C) : Cache κ τ C where
  tags := c.tags
  stale k' := if k' = k then false else c.stale k'
  view k' := if k' = k then some v else c.view k'

/-- What was read is the source's, or is to be read again. -/
structure Fresh (tag : N → κ → Option τ) (keys : κ → Prop) (live : κ → Option τ)
    (contents : κ → C) (c : Cache κ τ C) (pending : List N) : Prop where
  last : ∀ k, keys k → lastTag tag k (c.tags k) pending = live k
  view : ∀ k, keys k →
    c.view k = some (contents k) ∨ c.stale k = true ∨ Renews tag k (c.tags k) pending

/-- A step of the source: its notices lead from the old tags to the new ones, and
renew every key whose contents changed. -/
structure Announces (tag : N → κ → Option τ) (keys : κ → Prop) (live live' : κ → Option τ)
    (contents contents' : κ → C) (notes : List N) : Prop where
  last : ∀ k, keys k → lastTag tag k (live k) notes = live' k
  renews : ∀ k, keys k → contents' k = contents k ∨ Renews tag k (live k) notes

/-- A step that changes nothing under the keys and tells nothing of them. -/
theorem Announces.silent {tag : N → κ → Option τ} {keys : κ → Prop} {live live' : κ → Option τ}
    {contents contents' : κ → C} {notes : List N} (hlive : ∀ k, keys k → live' k = live k)
    (hcontents : ∀ k, keys k → contents' k = contents k)
    (hnotes : ∀ n ∈ notes, ∀ k, tag n k = none) :
    Announces tag keys live live' contents contents' notes where
  last k hk := (lastTag_silent (fun n hn => hnotes n hn k) (live k)).trans (hlive k hk).symm
  renews k hk := .inl (hcontents k hk)

/-- One step after another. -/
theorem Announces.trans {tag : N → κ → Option τ} {keys : κ → Prop}
    {live live' live'' : κ → Option τ} {contents contents' contents'' : κ → C} {xs ys : List N}
    (h : Announces tag keys live live' contents contents' xs)
    (h' : Announces tag keys live' live'' contents' contents'' ys) :
    Announces tag keys live live'' contents contents'' (xs ++ ys) where
  last k hk := by rw [lastTag_append, h.last k hk, h'.last k hk]
  renews k hk := by
    rw [renews_append, h.last k hk]
    rcases h'.renews k hk with hsame | hrenews
    · rw [hsame]
      exact (h.renews k hk).imp id .inl
    · exact .inr (.inr hrenews)

/-- A step with one notice: it tells of a key what its tag is now, which is another one
where the contents changed; or it says nothing of a key that is as it was. -/
theorem Announces.notice {tag : N → κ → Option τ} {keys : κ → Prop} {live live' : κ → Option τ}
    {contents contents' : κ → C} {n : N}
    (h : ∀ k, keys k →
      ((live' k).isSome ∧ tag n k = live' k ∧ (contents' k = contents k ∨ live' k ≠ live k)) ∨
        (tag n k = none ∧ live' k = live k ∧ contents' k = contents k)) :
    Announces tag keys live live' contents contents' [n] where
  last k hk := by
    rcases h k hk with ⟨hsome, htag, -⟩ | ⟨htag, hlive, -⟩
    · obtain ⟨t, ht⟩ := Option.isSome_iff_exists.mp hsome
      rw [lastTag, lastTag, htag, ht]
      rfl
    · rw [lastTag, lastTag, htag, hlive]
      rfl
  renews k hk := by
    rcases h k hk with ⟨hsome, htag, hsame | hne⟩ | ⟨-, -, hsame⟩
    · exact .inl hsame
    · rw [Renews, htag]
      exact .inr (.inl ⟨hsome, hne⟩)
    · exact .inl hsame

namespace Fresh
variable {tag : N → κ → Option τ} {keys : κ → Prop} {live live' : κ → Option τ}
  {contents contents' : κ → C} {c : Cache κ τ C} {pending : List N}

/-- A new cache is renewed at every key that its first notices tag. -/
theorem start (hlast : ∀ k, keys k → lastTag tag k none pending = live k)
    (hrenews : ∀ k, keys k → Renews tag k none pending) :
    Fresh tag keys live contents .empty pending :=
  ⟨hlast, fun k hk => .inr (.inr (hrenews k hk))⟩

/-- The source goes on. -/
theorem act (h : Fresh tag keys live contents c pending) {notes : List N}
    (ha : Announces tag keys live live' contents contents' notes) :
    Fresh tag keys live' contents' c (pending ++ notes) where
  last k hk := by rw [lastTag_append, h.last k hk, ha.last k hk]
  view k hk := by
    rw [renews_append, h.last k hk]
    rcases ha.renews k hk with hsame | hrenews
    · rw [hsame]
      exact (h.view k hk).imp id fun hlater => hlater.imp id .inl
    · exact .inr (.inr (.inr hrenews))

/-- The next notice arrives. -/
theorem hear [DecidableEq τ] {n : N} (h : Fresh tag keys live contents c (n :: pending)) :
    Fresh tag keys live contents (c.hear tag n) pending where
  last := h.last
  view k hk := by
    simp only [Cache.hear, Bool.or_eq_true, Bool.and_eq_true, bne_iff_ne]
    rcases h.view k hk with hview | hstale | hnow | hlater
    · exact .inl hview
    · exact .inr (.inl (.inl hstale))
    · exact .inr (.inl (.inr hnow))
    · exact .inr (.inr hlater)

/-- The cache reads a key, whether or not it is stale. -/
theorem read [DecidableEq κ] (h : Fresh tag keys live contents c pending) (k : κ) :
    Fresh tag keys live contents (c.read k (contents k)) pending where
  last := h.last
  view k' hk' := by
    simp only [Cache.read]
    by_cases heq : k' = k
    · subst heq
      exact .inl (if_pos rfl)
    · rw [if_neg heq, if_neg heq]
      exact h.view k' hk'

/-- Without a notice on its way and with nothing stale, the cache holds what the source
has. -/
theorem settled (h : Fresh tag keys live contents c []) {k : κ} (hk : keys k)
    (hstale : c.stale k = false) : c.view k = some (contents k) := by
  rcases h.view k hk with hview | hs | hrenews
  · exact hview
  · rw [hstale] at hs
    cases hs
  · exact hrenews.elim

end Fresh

end PwOss.Revalidation
