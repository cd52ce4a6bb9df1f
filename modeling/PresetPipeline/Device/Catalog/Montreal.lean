import PresetPipeline.Device.Catalog.Sheet

/-!
# The device Montreal

Twenty-seven qubits in a heavy-hexagonal lattice, with pulse access.

* `Sheet.montreal`, `PulseSheet.montreal` — its data sheets.
-/

set_option autoImplicit false

namespace PresetPipeline

def Sheet.montreal : Sheet where
  name := "fake_montreal"
  version := "1.10.7"
  openPulse := true
  timing := some ⟨16, 64, 1, 16⟩
  readoutLength := 1.191111111e-6
  resetLength := 1.291111111e-6
  qubits :=
    [⟨0.000106607, 0.000114164, 5232818801.0, 0.0153, 0.00046⟩,
    ⟨5.121e-5, 0.000128911, 4983226661.0, 0.0218, 0.000582⟩,
    ⟨0.000122412, 5.2e-5, 5213872579.0, 0.0262, 0.000194⟩,
    ⟨5.1777e-5, 0.000140137, 5079199405.0, 0.0109, 0.000411⟩,
    ⟨0.000124665, 0.000122978, 5146067715.0, 0.0323, 0.000327⟩,
    ⟨0.000139307, 3.1452e-5, 5239772412.0, 0.0318, 0.0004⟩,
    ⟨6.9029e-5, 0.000103493, 4985132917.0, 0.0321, 0.000571⟩,
    ⟨0.000111903, 9.2908e-5, 4889495343.0, 0.0225, 0.000385⟩,
    ⟨7.3693e-5, 0.000119929, 5222490734.0, 0.0367, 0.000323⟩,
    ⟨9.5396e-5, 5.0422e-5, 5133015720.0, 0.0178, 0.000276⟩,
    ⟨0.000139743, 5.0749e-5, 5237295290.0, 0.0086, 0.000564⟩,
    ⟨0.000119073, 7.1563e-5, 5079630475.0, 0.0234, 0.000251⟩,
    ⟨7.4252e-5, 8.2522e-5, 5176320343.0, 0.0211, 0.000516⟩,
    ⟨7.9289e-5, 0.000123772, 4921083386.0, 0.0212, 0.000648⟩,
    ⟨9.4063e-5, 9.2082e-5, 4917982245.0, 0.0363, 0.000505⟩,
    ⟨9.1468e-5, 4.0974e-5, 4985346904.0, 0.0101, 0.000604⟩,
    ⟨7.7655e-5, 4.3717e-5, 4951740631.0, 0.0286, 0.000239⟩,
    ⟨0.000110506, 6.5978e-5, 5035381619.0, 0.027, 0.000466⟩,
    ⟨0.000100656, 0.000138833, 4936640015.0, 0.0366, 0.000466⟩,
    ⟨9.7656e-5, 0.000137344, 5124044466.0, 0.0081, 0.000217⟩,
    ⟨5.0462e-5, 0.000125657, 4968464278.0, 0.0307, 0.000384⟩,
    ⟨5.4224e-5, 9.7458e-5, 5014257290.0, 0.025, 0.000324⟩,
    ⟨4.533e-5, 0.000137488, 5187590037.0, 0.0355, 0.000239⟩,
    ⟨0.000103994, 5.7223e-5, 4926726377.0, 0.039, 0.000368⟩,
    ⟨7.6289e-5, 7.6043e-5, 5202002195.0, 0.0208, 0.000221⟩,
    ⟨0.000139343, 5.2016e-5, 5190631911.0, 0.0189, 0.000612⟩,
    ⟨5.8037e-5, 8.5484e-5, 5179780812.0, 0.0118, 0.000258⟩]
  edges :=
    [⟨⟨0, 1⟩, 0.01779, 4.58666667e-7⟩,
    ⟨⟨1, 0⟩, 0.0213, 5.29777778e-7⟩,
    ⟨⟨1, 2⟩, 0.02106, 2.95111111e-7⟩,
    ⟨⟨1, 4⟩, 0.01528, 2.34666667e-7⟩,
    ⟨⟨2, 1⟩, 0.01434, 3.66222222e-7⟩,
    ⟨⟨2, 3⟩, 0.01563, 4.12444444e-7⟩,
    ⟨⟨3, 2⟩, 0.00955, 4.83555556e-7⟩,
    ⟨⟨3, 5⟩, 0.00924, 4.58666667e-7⟩,
    ⟨⟨4, 1⟩, 0.01493, 3.05777778e-7⟩,
    ⟨⟨4, 7⟩, 0.02176, 4.58666667e-7⟩,
    ⟨⟨5, 3⟩, 0.0131, 5.29777778e-7⟩,
    ⟨⟨5, 8⟩, 0.01616, 3.62666667e-7⟩,
    ⟨⟨6, 7⟩, 0.01227, 3.05777778e-7⟩,
    ⟨⟨7, 4⟩, 0.00905, 5.29777778e-7⟩,
    ⟨⟨7, 6⟩, 0.00613, 3.76888889e-7⟩,
    ⟨⟨7, 10⟩, 0.01434, 3.2e-7⟩,
    ⟨⟨8, 5⟩, 0.01762, 4.33777778e-7⟩,
    ⟨⟨8, 9⟩, 0.01353, 3.84e-7⟩,
    ⟨⟨8, 11⟩, 0.00992, 2.41777778e-7⟩,
    ⟨⟨9, 8⟩, 0.00718, 4.55111111e-7⟩,
    ⟨⟨10, 7⟩, 0.01825, 3.91111111e-7⟩,
    ⟨⟨10, 12⟩, 0.01715, 2.34666667e-7⟩,
    ⟨⟨11, 8⟩, 0.01611, 3.12888889e-7⟩,
    ⟨⟨11, 14⟩, 0.01931, 2.34666667e-7⟩,
    ⟨⟨12, 10⟩, 0.02169, 3.05777778e-7⟩,
    ⟨⟨12, 13⟩, 0.0075, 4.58666667e-7⟩,
    ⟨⟨12, 15⟩, 0.01654, 2.59555556e-7⟩,
    ⟨⟨13, 12⟩, 0.00815, 5.29777778e-7⟩,
    ⟨⟨13, 14⟩, 0.01518, 5.12e-7⟩,
    ⟨⟨14, 11⟩, 0.01378, 3.05777778e-7⟩,
    ⟨⟨14, 13⟩, 0.02163, 5.83111111e-7⟩,
    ⟨⟨14, 16⟩, 0.01749, 3.62666667e-7⟩,
    ⟨⟨15, 12⟩, 0.02142, 3.30666667e-7⟩,
    ⟨⟨15, 18⟩, 0.01932, 3.84e-7⟩,
    ⟨⟨16, 14⟩, 0.01596, 4.33777778e-7⟩,
    ⟨⟨16, 19⟩, 0.014, 2.41777778e-7⟩,
    ⟨⟨17, 18⟩, 0.01789, 3.76888889e-7⟩,
    ⟨⟨18, 15⟩, 0.02108, 4.55111111e-7⟩,
    ⟨⟨18, 17⟩, 0.01877, 4.48e-7⟩,
    ⟨⟨18, 21⟩, 0.01584, 2.98666667e-7⟩,
    ⟨⟨19, 16⟩, 0.01646, 3.12888889e-7⟩,
    ⟨⟨19, 20⟩, 0.01774, 4.51555556e-7⟩,
    ⟨⟨19, 22⟩, 0.02174, 4.65777778e-7⟩,
    ⟨⟨20, 19⟩, 0.00957, 5.22666667e-7⟩,
    ⟨⟨21, 18⟩, 0.01159, 3.69777778e-7⟩,
    ⟨⟨21, 23⟩, 0.01707, 3.52e-7⟩,
    ⟨⟨22, 19⟩, 0.01628, 5.36888889e-7⟩,
    ⟨⟨22, 25⟩, 0.01382, 3.94666667e-7⟩,
    ⟨⟨23, 21⟩, 0.01272, 4.23111111e-7⟩,
    ⟨⟨23, 24⟩, 0.01933, 2.24e-7⟩,
    ⟨⟨24, 23⟩, 0.00775, 2.95111111e-7⟩,
    ⟨⟨24, 25⟩, 0.01454, 4.23111111e-7⟩,
    ⟨⟨25, 22⟩, 0.01821, 4.65777778e-7⟩,
    ⟨⟨25, 24⟩, 0.01314, 4.94222222e-7⟩,
    ⟨⟨25, 26⟩, 0.01855, 3.2e-7⟩,
    ⟨⟨26, 25⟩, 0.02088, 3.91111111e-7⟩]

def PulseSheet.montreal : PulseSheet where
  driveFrequencies :=
    [5.232819, 4.983227, 5.213873, 5.079199, 5.146068, 5.239772, 4.985133, 4.889495, 5.222491,
    5.133016, 5.237295, 5.07963, 5.17632, 4.921083, 4.917982, 4.985347, 4.951741, 5.035382,
    4.93664, 5.124044, 4.968464, 5.014257, 5.18759, 4.926726, 5.202002, 5.190632, 5.179781]
  readoutFrequencies :=
    [7.044327, 7.31085, 7.119126, 7.315767, 7.226565, 7.173241, 7.247807, 7.103509, 7.213977,
    7.336753, 7.257857, 7.301883, 7.386395, 7.049478, 7.309634, 7.383895, 7.215927, 7.134592,
    7.255305, 7.044117, 7.303004, 7.296882, 7.0098, 7.21304, 7.197484, 7.292641, 7.170231]
  crossLengths :=
    [872, 872, 504, 368, 504, 768, 768, 872, 368, 872, 872, 656, 528, 872, 528, 560, 656, 704,
    384, 704, 560, 368, 384, 368, 368, 872, 424, 872, 992, 368, 992, 656, 424, 704, 656, 384,
    688, 704, 688, 512, 384, 856, 888, 856, 512, 632, 888, 728, 632, 344, 344, 792, 728, 792,
    560, 560]

end PresetPipeline
