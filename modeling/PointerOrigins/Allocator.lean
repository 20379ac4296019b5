/-!
Well-known allocation and deallocation functions.
-/

namespace PointerOrigins

/-- What a well-known function does with memory. -/
inductive AllocKind where
  | alignedAlloc
  | posixAlignedAlloc
  | calloc
  | free
  | malloc
  | realloc
  | reallocArray
  | operatorNew
  | operatorNewNothrow
  | operatorNewAligned
  | operatorNewAlignedNothrow
  | operatorDelete
  | operatorDeleteSized
  | operatorDeleteAligned
  | operatorDeleteAlignedSized
deriving DecidableEq, Repr, Inhabited

namespace AllocKind

/-- All kinds, in their order. -/
def all : List AllocKind :=
  [ .alignedAlloc, .posixAlignedAlloc, .calloc, .free, .malloc, .realloc, .reallocArray,
    .operatorNew, .operatorNewNothrow, .operatorNewAligned, .operatorNewAlignedNothrow,
    .operatorDelete, .operatorDeleteSized, .operatorDeleteAligned, .operatorDeleteAlignedSized ]

/-- The name of a kind. -/
def name : AllocKind → String
  | .alignedAlloc => "aligned_alloc"
  | .posixAlignedAlloc => "posix_aligned_alloc"
  | .calloc => "calloc"
  | .free => "free"
  | .malloc => "malloc"
  | .realloc => "realloc"
  | .reallocArray => "realloc_array"
  | .operatorNew => "operator_new"
  | .operatorNewNothrow => "operator_new_nothrow"
  | .operatorNewAligned => "operator_new_aligned"
  | .operatorNewAlignedNothrow => "operator_new_aligned_nothrow"
  | .operatorDelete => "operator_delete"
  | .operatorDeleteSized => "operator_delete_sized"
  | .operatorDeleteAligned => "operator_delete_aligned"
  | .operatorDeleteAlignedSized => "operator_delete_aligned_sized"

/-- The well-known functions by symbol. -/
def table : List (String × AllocKind) :=
  [ ("aligned_alloc", .alignedAlloc),
    ("calloc", .calloc),
    ("free", .free),
    ("malloc", .malloc),
    ("memalign", .alignedAlloc),
    ("posix_memalign", .posixAlignedAlloc),
    ("realloc", .realloc),
    ("reallocarray", .reallocArray),
    -- operator delete[] and operator delete
    ("_ZdaPv", .operatorDelete),
    ("_ZdaPvm", .operatorDeleteSized),
    ("_ZdaPvSt11align_val_t", .operatorDeleteAligned),
    ("_ZdaPvmSt11align_val_t", .operatorDeleteAlignedSized),
    ("_ZdlPv", .operatorDelete),
    ("_ZdlPvm", .operatorDeleteSized),
    ("_ZdlPvSt11align_val_t", .operatorDeleteAligned),
    ("_ZdlPvmSt11align_val_t", .operatorDeleteAlignedSized),
    -- operator new[] and operator new
    ("_Znam", .operatorNew),
    ("_ZnamRKSt9nothrow_t", .operatorNewNothrow),
    ("_ZnamSt11align_val_t", .operatorNewAligned),
    ("_ZnamSt11align_val_tRKSt9nothrow_t", .operatorNewAlignedNothrow),
    ("_Znwm", .operatorNew),
    ("_ZnwmRKSt9nothrow_t", .operatorNewNothrow),
    ("_ZnwmSt11align_val_t", .operatorNewAligned),
    ("_ZnwmSt11align_val_tRKSt9nothrow_t", .operatorNewAlignedNothrow),
    -- names that compilers and libraries keep for themselves
    ("__builtin_calloc", .calloc),
    ("__builtin_free", .free),
    ("__builtin_malloc", .malloc),
    ("__builtin_operator_delete", .operatorDelete),
    ("__builtin_operator_new", .operatorNew),
    ("__builtin_realloc", .realloc),
    ("__libc_calloc", .calloc),
    ("__libc_free", .free),
    ("__libc_malloc", .malloc),
    ("__libc_memalign", .alignedAlloc),
    ("__libc_realloc", .realloc) ]

/-- The kind of a well-known function. -/
def ofSymbol? (symbol : String) : Option AllocKind :=
  table.lookup symbol

/-- The kinds that occur in a list, in their order and once each. -/
def sorted (kinds : List AllocKind) : List AllocKind :=
  all.filter kinds.contains

end AllocKind

end PointerOrigins
