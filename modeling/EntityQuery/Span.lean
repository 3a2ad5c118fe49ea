/-!
Stretches of a source text, from the byte where one starts to the byte after its end.
-/
namespace EntityQuery

structure Span where
  start : Nat
  stop : Nat
  deriving DecidableEq, Inhabited

namespace Span

def point (n : Nat) : Span :=
  ⟨n, n⟩

def cover (a b : Span) : Span :=
  ⟨min a.start b.start, max a.stop b.stop⟩

end Span
end EntityQuery
