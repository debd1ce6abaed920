import SiliconBench.Kernel.Settings

/-! # Catalog — the kernels that come with the library

A kernel's key begins with its category. The catalog keeps the order in which
kernels are listed. -/

namespace SiliconBench.Kernel

/-- The categories and their names. -/
def categoryNames : List (String × String) :=
  [("ml", "Machine Learning"), ("sci", "Scientific Computing"), ("gfx", "Graphics"),
    ("data", "Data Analytics & Parallel Primitives"), ("crypto", "Cryptography & Other"),
    ("custom", "Custom")]

/-- A kernel of the catalog under its key. The key's part before the colon is the category. -/
def entry (key name : String) (ops data items : Int) (locality : Float)
    (intensity access applications : String) : String × Workload Value :=
  (key,
    { name := .text name, ops := .whole ops, data := .whole data, items := .whole items,
      locality := .real locality,
      category := .text (String.ofList (key.toList.takeWhile (· != ':'))),
      intensity := .text intensity, access := .text access, applications := .text applications })

/-- The kernels. -/
def catalog : List (String × Workload Value) :=
  [entry "ml:gemm_small" "ML: GEMM (Small)" 1024 4 262144 0.95 "High"
      "Strided"
      "Neural Networks",
   entry "ml:gemm_large" "ML: GEMM (Large)" 8192 4 16777216 0.9 "Very High"
      "Strided, potential cache capacity issues"
      "Large DL Models",
   entry "ml:sparse_gemm" "ML: Sparse GEMM" 2048 12 1048576 0.3 "Medium"
      "Irregular, indirect memory access"
      "Recommender Systems, Graph NN",
   entry "ml:conv_small_kernel" "ML: Convolution (3x3)" 18 4 1048576 0.98 "High"
      "High spatial locality"
      "CNNs, Image Processing",
   entry "ml:conv_large_kernel" "ML: Convolution (11x11)" 242 4 1048576 0.9 "Very High"
      "High spatial locality, more cache pressure"
      "Early layers of CNNs",
   entry "ml:attention_mechanism" "ML: Attention (Simplified)" 131072 4 256 0.7 "Very High"
      "Mixed random and sequential"
      "Transformers, NLP",
   entry "ml:transformer_encoder" "ML: Transformer Encoder Layer" 6291456 4 1024 0.75 "Very High"
      "Combination of dense GEMM and scattered attention"
      "BERT, GPT models",
   entry "ml:word2vec" "ML: Word2Vec (Skip-gram)" 300 1200 100000 0.2 "Medium"
      "Highly random access into embedding matrix"
      "Natural Language Processing",
   entry "ml:rnn_cell" "ML: RNN Cell" 524288 4 1 0.9 "High"
      "Sequential, dependent"
      "Sequence modeling",
   entry "ml:lstm_cell" "ML: LSTM Cell" 2097152 4 1 0.85 "Very High"
      "Sequential, dependent gates"
      "Advanced sequence modeling",
   entry "ml:batch_norm" "ML: Batch Normalization" 5 8 1048576 0.6 "Low"
      "Sequential"
      "Deep Learning",
   entry "ml:max_pooling" "ML: Max Pooling Layer" 4 16 1048576 0.99 "Low"
      "Strided, high locality"
      "CNN feature extraction",
   entry "ml:activation_relu" "ML: Activation (ReLU)" 1 8 16777216 0.9 "Very Low"
      "Purely sequential streaming"
      "Component in all neural networks",
   entry "sci:n_body_small" "Sci: N-Body (Small N)" 20480 24 1024 0.9 "High"
      "All-to-all, benefits from shared memory"
      "Astrophysics, Molecular Dynamics",
   entry "sci:n_body_large" "Sci: N-Body (Large N)" 655360 24 32768 0.5 "Very High"
      "All-to-all, memory bound"
      "Cosmological simulations",
   entry "sci:molecular_dynamics" "Sci: Molecular Dynamics" 25600 24 32768 0.8 "Very High"
      "Neighborhood-based, high locality with data structures"
      "Drug discovery, materials science",
   entry "sci:stencil_2d" "Sci: Stencil 2D" 5 20 16777216 0.98 "Medium"
      "High spatial locality"
      "PDE solvers, Fluid Dynamics",
   entry "sci:stencil_3d" "Sci: Stencil 3D" 7 28 16777216 0.95 "Medium"
      "High spatial locality in 3D"
      "Weather simulation, medical imaging",
   entry "sci:fluid_dynamics_lbm" "Sci: Fluid Dynamics (LBM)" 100 36 16777216 0.9 "High"
      "Complex stencil (streaming and collision steps)"
      "CFD simulations",
   entry "sci:weather_model_kernel" "Sci: Weather Model Kernel" 250 100 33554432 0.8 "High"
      "Complex 3D stencil and data access"
      "Weather forecasting",
   entry "sci:fft_1d" "Sci: 1D FFT" 100 8 1048576 0.4 "Medium"
      "Strided, butterfly pattern"
      "Signal processing, image analysis",
   entry "sci:fft_2d" "Sci: 2D FFT" 100 8 4194304 0.5 "Medium"
      "Complex strided access"
      "Image filtering",
   entry "sci:sparse_matrix_vector_mul" "Sci: Sparse Matrix-Vector Mul" 2 12 1000000 0.2 "Low"
      "Irregular, indirect memory access"
      "Finite Element Method, solvers",
   entry "sci:monte_carlo_pi" "Sci: Monte Carlo (Pi)" 5 0 100000000 1.0 "Low, but highly parallel"
      "None (compute bound)"
      "Financial modeling, physics",
   entry "sci:black_scholes" "Sci: Black-Scholes Option Pricing" 30 20 10000000 0.95 "Medium"
      "Sequential streaming"
      "Financial engineering",
   entry "sci:quantum_circuit_sim" "Sci: Quantum Circuit Sim" 200 16 1048576 0.6 "High"
      "Strided and complex, based on gates"
      "Quantum computing research",
   entry "gfx:vertex_processing" "Gfx: Vertex Processing" 100 48 1000000 0.8 "High"
      "Sequential stream"
      "3D Graphics Pipeline",
   entry "gfx:fragment_simple" "Gfx: Fragment Shading (Simple)" 20 12 2073600 0.95 "Medium"
      "High spatial locality (2D tile)"
      "Real-time rendering",
   entry "gfx:fragment_complex" "Gfx: Fragment Shading (Complex)" 200 64 2073600 0.7 "Very High"
      "High locality with some random access for textures"
      "AAA Games",
   entry "gfx:texture_sampling_heavy" "Gfx: Heavy Texture Sampling" 50 200 2073600 0.6 "Medium"
      "High locality with trilinear/anisotropic filtering"
      "Advanced texturing in games",
   entry "gfx:ambient_occlusion" "Gfx: Ambient Occlusion (SSAO)" 64 16 2073600 0.9 "High"
      "Random sampling in a local neighborhood"
      "Real-time graphics",
   entry "gfx:ray_tracing_simple" "Gfx: Ray Tracing (Simple)" 150 100 2073600 0.85 "Very High"
      "Coherent random access"
      "Offline rendering, path tracing",
   entry "gfx:ray_tracing_bvh" "Gfx: Ray Tracing (BVH)" 80 60 2073600 0.6 "High"
      "Incoherent random access"
      "Real-time ray tracing",
   entry "gfx:particle_simulation" "Gfx: Particle Simulation" 30 24 1000000 0.5 "Medium"
      "Scattered reads, sequential writes"
      "VFX, physics engines",
   entry "gfx:geometry_shading" "Gfx: Geometry Shading" 300 128 500000 0.8 "High"
      "Stream amplification, unpredictable writes"
      "VFX, procedural generation",
   entry "gfx:tessellation" "Gfx: Tessellation" 50 64 200000 0.9 "Medium"
      "Localized, creates high-poly geometry"
      "Character models, terrain",
   entry "gfx:post_processing_bloom" "Gfx: Post-FX (Bloom)" 10 8 2073600 0.98 "Low"
      "Image-space, separable blur filter"
      "HDR rendering",
   entry "gfx:compute_skinning" "Gfx: Compute Skinning" 80 96 100000 0.7 "Medium"
      "Strided reads (vertices), random reads (bone matrices)"
      "Character animation",
   entry "data:reduction_sum" "Data: Reduction (Sum)" 1 4 100000000 0.4 "Low"
      "Sequential then strided"
      "Parallel primitive",
   entry "data:reduction_max" "Data: Reduction (Max)" 1 4 100000000 0.4 "Low"
      "Sequential then strided"
      "Parallel primitive",
   entry "data:scan_blelloch" "Data: Scan (Prefix Sum)" 2 8 50000000 0.5 "Low"
      "Strided, two-pass"
      "Parallel primitive",
   entry "data:histogram" "Data: Histogram" 2 4 100000000 0.1 "Low"
      "Random access writes (atomic conflicts)"
      "Image processing, data analysis",
   entry "data:filter" "Data: Stream Compaction (Filter)" 1 8 50000000 0.7 "Low"
      "Sequential reads, scattered writes"
      "Database queries",
   entry "data:radix_sort" "Data: Radix Sort" 20 4 20000000 0.3 "Medium"
      "Highly random access patterns"
      "Sorting large datasets",
   entry "data:merge_sort" "Data: Merge Sort" 10 8 10000000 0.6 "Medium"
      "Sequential blocks"
      "Sorting",
   entry "data:bitonic_sort" "Data: Bitonic Sort" 20 8 4194304 0.3 "Medium"
      "Highly structured strided access, but not cache friendly"
      "Parallel sorting network",
   entry "data:database_join_hash" "Data: DB Hash Join" 10 16 10000000 0.2 "Low"
      "Two-pass: random writes (build), sequential reads (probe)"
      "Database query processing",
   entry "data:graph_bfs" "Data: Graph Traversal (BFS)" 5 12 1000000 0.1 "Low"
      "Highly irregular, follows graph structure"
      "Social network analysis, pathfinding",
   entry "data:graph_pagerank" "Data: Graph PageRank" 4 8 1000000 0.1 "Low"
      "Sparse matrix-vector multiplication, irregular access"
      "Web search, network analysis",
   entry "data:string_search_aho" "Data: String Search (Aho-Corasick)" 5 4 100000000 0.8 "Low"
      "Sequential text read, state-machine based pointer chasing"
      "Intrusion detection, bioinformatics",
   entry "data:k_means_clustering" "Data: K-Means Clustering" 192 256 100000 0.7 "Medium"
      "Iterative, reads all points and centroids repeatedly"
      "Unsupervised learning",
   entry "crypto:sha256" "Crypto: SHA-256 Hash" 512 64 100000 0.99 "High"
      "Highly sequential within a block"
      "Blockchain, security",
   entry "crypto:aes_encrypt" "Crypto: AES Encryption" 640 16 1000000 0.8 "High"
      "Table lookups and permutations"
      "Data encryption",
   entry "custom" "Custom Benchmark" 100 50 1000000 0.5 "User-defined"
      "User-defined"
      "Custom workload modeling"]

/-- The key of the kernel that is run when none is named. -/
def defaultKey : String := "ml:gemm_small"

/-- The kernel with a given key. -/
def get? (key : String) : Option (Workload Value) :=
  catalog.lookup key

/-- The category of a kernel, as text. -/
def categoryOf (w : Workload Value) : String :=
  w.category.display

/-- The keys of a category, or of all categories. -/
def keysOf (category : Option String) : List String :=
  (catalog.filter fun (_, w) => category.all (· == categoryOf w)).map Prod.fst

/-- Puts a key with the others of its category, at the end. -/
def group (category key : String) : List (String × List String) → List (String × List String)
  | [] => [(category, [key])]
  | (c, keys) :: rest =>
    if c = category then (c, keys ++ [key]) :: rest else (c, keys) :: group category key rest

/-- The keys category by category, in the order of the catalog. -/
def grouped : List (String × List String) :=
  catalog.foldl (fun groups (key, w) => group (categoryOf w) key groups) []

/-- The kernel that a setting names. -/
def resolve (v : Value) : Result Value (Workload Value) :=
  match v with
  | .list _ | .table _ => .error .wrongKind
  | _ =>
    let found := match v with
      | .text key => get? key
      | _ => none
    match found with
    | some w => .ok w
    | none => refuse (.unknownKernel v.display)

end SiliconBench.Kernel
