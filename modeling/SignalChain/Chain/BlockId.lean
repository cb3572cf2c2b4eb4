import SignalChain.Rig.Path

/-!
# Block ids

A stage of the chain is the instrument or a block that a path stores under a
key.  The instrument comes before all blocks, and the blocks are ordered by
path and then by key.
-/

namespace SignalChain

inductive BlockId where
  | instrument
  | onPath (path : DspPath) (key : String)
deriving BEq, DecidableEq

namespace BlockId

def text : BlockId -> String
  | .instrument => "instrument"
  | .onPath path key => path.text ++ "/" ++ key

def path? : BlockId -> Option DspPath
  | .instrument => none
  | .onPath path _ => some path

def key? : BlockId -> Option String
  | .instrument => none
  | .onPath _ key => some key

def isInstrument : BlockId -> Bool
  | .instrument => true
  | .onPath _ _ => false

/-! ## Order -/

/-- The instrument counts before the first path. -/
def rank : BlockId -> Nat
  | .instrument => 0
  | .onPath path _ => path.index + 1

def keyOrEmpty (id : BlockId) : String :=
  id.key?.getD ""

instance : Ord BlockId :=
  ⟨compareLex (compareOn rank) (compareOn keyOrEmpty)⟩

instance : Std.TransOrd BlockId :=
  inferInstanceAs
    (Std.TransCmp (compareLex (compareOn rank) (compareOn keyOrEmpty)))

theorem eq_of_rank_of_key {a b : BlockId}
    (hr : a.rank = b.rank) (hk : a.keyOrEmpty = b.keyOrEmpty) :
    a = b := by
  cases a with
  | instrument =>
      cases b with
      | instrument => rfl
      | onPath q l =>
          simp [rank] at hr
  | onPath p k =>
      cases b with
      | instrument =>
          simp [rank] at hr
      | onPath q l =>
          have hkey : k = l := by
            simpa [keyOrEmpty, key?] using hk
          subst hkey
          cases p <;> cases q <;> simp_all [rank, DspPath.index]

instance : Std.LawfulEqOrd BlockId where
  eq_of_compare {a b} h := by
    have h2 : (compareOn rank a b).then (compareOn keyOrEmpty a b) = .eq := h
    rw [Ordering.then_eq_eq] at h2
    exact eq_of_rank_of_key
      (Std.LawfulEqOrd.eq_of_compare h2.1)
      (Std.LawfulEqOrd.eq_of_compare h2.2)

end BlockId

end SignalChain
