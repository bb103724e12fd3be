import Membrane.Member.Resolution

/-! # The resolution cache

Resolution depends on nothing but the type, the key and the scope, so its results are kept. A key
that resolves to nothing is kept as well.
-/

namespace Membrane

/-- What a lookup was for. -/
structure LookupKey where
  type : TypeId
  scope : MemberScope
  name : String
  deriving DecidableEq, Repr

/-- The lookups done so far and their results. -/
structure ResolutionCache where
  entries : List (LookupKey × ResolvedMember)

namespace ResolutionCache

def empty : ResolutionCache := ⟨[]⟩

/-- The number of lookups kept. -/
def size (cache : ResolutionCache) : Nat := cache.entries.length

/-- The kept result of a lookup. -/
def find? (cache : ResolutionCache) (key : LookupKey) : Option ResolvedMember :=
  cache.entries.lookup key

/-- Keeps the result of a lookup that was not kept before. -/
def insert (cache : ResolutionCache) (key : LookupKey) (member : ResolvedMember) :
    ResolutionCache :=
  ⟨(key, member) :: cache.entries⟩

/-- The member that a key denotes, from the cache if the lookup was done before. -/
def resolve (cache : ResolutionCache) (types : Registry) (t : TypeId) (key : String)
    (scope : MemberScope) : ResolvedMember × ResolutionCache :=
  match cache.find? ⟨t, scope, key⟩ with
  | some member => (member, cache)
  | none =>
      let member := types.resolve t key scope
      (member, cache.insert ⟨t, scope, key⟩ member)

end ResolutionCache

end Membrane
