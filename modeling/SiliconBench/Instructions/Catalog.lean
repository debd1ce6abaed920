/-! # Catalog — the programs that come with the library

Small kernels in the manner of RISC-V assembly. They are never executed: only
their mix of instructions matters. -/

namespace SiliconBench.Instructions

/-- A program of the catalog. -/
structure Program where
  key : String
  name : String
  category : String
  lines : List String

namespace Program

/-- The text of a program. -/
def code (p : Program) : String :=
  "\n".intercalate p.lines

end Program

/-- The programs, category by category. -/
def catalog : List Program :=
  [⟨"bubble_sort", "Bubble Sort", "Sorting",
      ["# Sorts a small array in memory",
       "li x1, 1000 # array base",
       "li x2, 8 # array size",
       "addi x3, x2, -1",
       "outer_loop:",
       "  li x4, 0",
       "  mv x5, x3",
       "inner_loop:",
       "  slli x6, x4, 2",
       "  add x7, x1, x6",
       "  lw x8, 0(x7)",
       "  lw x9, 4(x7)",
       "  ble x8, x9, no_swap",
       "  sw x9, 0(x7)",
       "  sw x8, 4(x7)",
       "no_swap:",
       "  addi x4, x4, 1",
       "  blt x4, x5, inner_loop",
       "  addi x3, x3, -1",
       "  bne x3, x0, outer_loop"]⟩,
   ⟨"linear_search", "Linear Search", "Search",
      ["# Searches for value 42 in an array",
       "li a0, 1000 # array base",
       "li a1, 16   # array size",
       "li a2, 42   # value to find",
       "li t0, -1   # result index",
       "li t1, 0    # i = 0",
       "ls_loop:",
       "  bge t1, a1, ls_end",
       "  slli t2, t1, 2",
       "  add t2, a0, t2",
       "  lw t3, 0(t2)",
       "  beq t3, a2, ls_found",
       "  addi t1, t1, 1",
       "  j ls_loop",
       "ls_found:",
       "  mv t0, t1",
       "ls_end:"]⟩,
   ⟨"binary_search", "Binary Search", "Search",
      ["# Searches for value 42 in a sorted array",
       "li x1, 1000 # array base",
       "li x2, 0    # low",
       "li x3, 6    # high",
       "li x4, 42   # value to find",
       "li x10, -1  # result index",
       "loop:",
       "  bge x2, x3, not_found",
       "  add x5, x2, x3",
       "  srli x5, x5, 1 # mid",
       "  slli x6, x5, 2",
       "  add x7, x1, x6",
       "  lw x8, 0(x7)",
       "  beq x8, x4, found_bs",
       "  blt x8, x4, go_right",
       "  addi x3, x5, -1",
       "  j loop",
       "go_right:",
       "  addi x2, x5, 1",
       "  j loop",
       "found_bs:",
       "  mv x10, x5",
       "not_found:"]⟩,
   ⟨"linked_list_traversal", "Linked List Traversal", "Data Structures",
      ["# Sums the values in a linked list",
       "li x1, 1000 # head pointer",
       "li x5, 0    # sum",
       "loop:",
       "  beq x1, x0, end_ll # if ptr is null, end",
       "  lw x2, 0(x1) # load value",
       "  add x5, x5, x2 # add to sum",
       "  lw x1, 4(x1) # load next ptr",
       "  j loop",
       "end_ll:"]⟩,
   ⟨"memcpy", "Memory Copy (memcpy)", "String & Memory Ops",
      ["# Copies N words from src to dst",
       "li a0, 1000 # src",
       "li a1, 2000 # dst",
       "li a2, 16 # num words",
       "li t0, 0 # i=0",
       "memcpy_loop:",
       "  bge t0, a2, memcpy_end",
       "  slli t1, t0, 2",
       "  add t2, a0, t1",
       "  lw t3, 0(t2)",
       "  add t4, a1, t1",
       "  sw t3, 0(t4)",
       "  addi t0, t0, 1",
       "  j memcpy_loop",
       "memcpy_end:"]⟩,
   ⟨"vector_add", "Vector Addition", "String & Memory Ops",
      ["li x1, 1000 # vector A",
       "li x2, 2000 # vector B",
       "li x3, 3000 # vector C (result)",
       "li x4, 16   # vector length",
       "li x5, 0    # loop counter i",
       "loop:",
       "  slli x6, x5, 2 # i * 4",
       "  add x7, x1, x6",
       "  add x8, x2, x6",
       "  lw x9, 0(x7)",
       "  lw x10, 0(x8)",
       "  add x11, x9, x10",
       "  add x12, x3, x6",
       "  sw x11, 0(x12)",
       "  addi x5, x5, 1",
       "  blt x5, x4, loop"]⟩,
   ⟨"dot_product", "Dot Product", "Numeric & Scientific",
      ["# Computes dot product of two vectors",
       "li a0, 1000 # vec1",
       "li a1, 2000 # vec2",
       "li a2, 16   # length",
       "li a3, 0    # result (sum)",
       "li t0, 0    # i",
       "dot_loop:",
       "  bge t0, a2, dot_end",
       "  slli t1, t0, 2",
       "  add t2, a0, t1",
       "  lw t3, 0(t2)",
       "  add t4, a1, t1",
       "  lw t5, 0(t4)",
       "  mul t6, t3, t5",
       "  add a3, a3, t6",
       "  addi t0, t0, 1",
       "  j dot_loop",
       "dot_end:"]⟩,
   ⟨"matrix_multiplication", "Matrix Multiplication (GEMM)", "Numeric & Scientific",
      ["# C = A * B for 4x4 integer matrices",
       "li s0, 1000 # matrix A base address",
       "li s1, 2000 # matrix B base address",
       "li s2, 3000 # matrix C base address",
       "li s3, 4 # N (dimension)",
       "li t0, 0 # i (row of C and A)",
       "i_loop:",
       "  li t1, 0 # j (col of C and B)",
       "j_loop:",
       "  li t2, 0 # k (col of A, row of B)",
       "  li t3, 0 # accumulator for C[i][j]",
       "k_loop:",
       "  # Calculate address of A[i][k]",
       "  mul t4, t0, s3",
       "  add t4, t4, t2",
       "  slli t4, t4, 2",
       "  add t4, s0, t4",
       "  lw t4, 0(t4) # load A[i][k]",
       "  # Calculate address of B[k][j]",
       "  mul t5, t2, s3",
       "  add t5, t5, t1",
       "  slli t5, t5, 2",
       "  add t5, s1, t5",
       "  lw t5, 0(t5) # load B[k][j]",
       "  # Multiply and accumulate",
       "  mul t6, t4, t5",
       "  add t3, t3, t6",
       "  addi t2, t2, 1",
       "  blt t2, s3, k_loop # next k",
       "  # Store result in C[i][j]",
       "  mul t4, t0, s3",
       "  add t4, t4, t1",
       "  slli t4, t4, 2",
       "  add t4, s2, t4",
       "  sw t3, 0(t4)",
       "  addi t1, t1, 1",
       "  blt t1, s3, j_loop # next j",
       "  addi t0, t0, 1",
       "  blt t0, s3, i_loop # next i",
       "end_gemm:"]⟩,
   ⟨"saxpy", "SAXPY", "Numeric & Scientific",
      ["# SAXPY: Y = a*X + Y (Single-precision A*X Plus Y)",
       "li s0, 1000 # vector X base",
       "li s1, 2000 # vector Y base",
       "li a0, 3 # scalar a",
       "li s2, 16 # vector length (number of elements)",
       "li t0, 0 # loop counter i",
       "saxpy_loop:",
       "  bge t0, s2, saxpy_end",
       "  slli t1, t0, 2 # i * 4 bytes",
       "  add t2, s0, t1 # address of X[i]",
       "  add t3, s1, t1 # address of Y[i]",
       "  lw t4, 0(t2) # load X[i]",
       "  lw t5, 0(t3) # load Y[i]",
       "  mul t4, t4, a0 # a * X[i]",
       "  add t5, t5, t4 # a*X[i] + Y[i]",
       "  sw t5, 0(t3) # store result back to Y[i]",
       "  addi t0, t0, 1",
       "  j saxpy_loop",
       "saxpy_end:"]⟩,
   ⟨"xor_cipher", "XOR Cipher", "Cryptography",
      ["# Simple XOR encryption/decryption",
       "li a0, 1000 # data",
       "li a1, 16 # length",
       "li a2, 0x5A # key",
       "li t0, 0 # i",
       "xor_loop:",
       "  bge t0, a1, xor_end",
       "  add t1, a0, t0",
       "  lb t2, 0(t1)",
       "  xor t2, t2, a2",
       "  sb t2, 0(t1)",
       "  addi t0, t0, 1",
       "  j xor_loop",
       "xor_end:"]⟩,
   ⟨"fibonacci_iter", "Fibonacci (Iterative)", "Control Flow & Misc",
      ["# Iterative fibonacci for n=12",
       "li a0, 12 # n",
       "li t0, 0 # a = 0",
       "li t1, 1 # b = 1",
       "li t2, 0 # i = 0",
       "li t3, 2",
       "blt a0, t3, fib_iter_end",
       "fib_iter_loop:",
       "  bge t2, a0, fib_iter_end",
       "  add t4, t0, t1",
       "  mv t0, t1",
       "  mv t1, t4",
       "  addi t2, t2, 1",
       "  j fib_iter_loop",
       "fib_iter_end:",
       "  # result in t0"]⟩,
   ⟨"factorial", "Factorial (Iterative)", "Control Flow & Misc",
      ["# Iterative factorial of n=7",
       "li a0, 7 # n",
       "li a1, 1 # result",
       "fact_loop:",
       "  beq a0, x0, fact_end",
       "  mul a1, a1, a0",
       "  addi a0, a0, -1",
       "  j fact_loop",
       "fact_end:"]⟩,
   ⟨"gcd", "GCD (Euclid's Algorithm)", "Control Flow & Misc",
      ["# Finds the Greatest Common Divisor (GCD) of two numbers using Euclid's algorithm",
       "li a0, 60 # first number",
       "li a1, 48 # second number",
       "gcd_loop:",
       "  beq a1, x0, gcd_end # if b is 0, a is the GCD",
       "  rem t0, a0, a1 # t0 = a % b",
       "  mv a0, a1 # a = b",
       "  mv a1, t0 # b = t0",
       "  j gcd_loop",
       "gcd_end:",
       "# result is in a0"]⟩]

/-- The key of the program that is run when none is named. -/
def defaultProgram : String := "bubble_sort"

/-- The program with a given key. -/
def program? (key : String) : Option Program :=
  catalog.find? fun p => p.key == key

/-- The keys of a category, or of all categories. -/
def programKeys (category : Option String) : List String :=
  (catalog.filter fun p => category.all (· == p.category)).map (·.key)

/-- The categories in the order in which they first appear. -/
def categories : List String :=
  catalog.foldl (fun seen p => if seen.contains p.category then seen else seen ++ [p.category]) []

end SiliconBench.Instructions
