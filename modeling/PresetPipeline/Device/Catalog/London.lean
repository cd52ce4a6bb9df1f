import PresetPipeline.Device.Catalog.Sheet

/-!
# The device London

Five qubits in the shape of a T, without pulse access.

* `Sheet.london` — its data sheet.
-/

set_option autoImplicit false

namespace PresetPipeline

def Sheet.london : Sheet where
  name := "fake_london"
  version := "1.0.0"
  openPulse := false
  timing := none
  readoutLength := 7.89333333e-7
  resetLength := 8.89333333e-7
  qubits :=
    [⟨9.4588e-5, 0.000126803, 5234197910.0, 0.0187, 0.000591⟩,
    ⟨0.00011778, 0.000114506, 5114553223.0, 0.0121, 0.000251⟩,
    ⟨4.7559e-5, 7.6101e-5, 5148558078.0, 0.0173, 0.000512⟩,
    ⟨9.2652e-5, 6.8092e-5, 5188531124.0, 0.043, 0.000443⟩,
    ⟨8.3151e-5, 0.000149814, 4874877117.0, 0.0381, 0.000629⟩]
  edges :=
    [⟨⟨0, 1⟩, 0.0113, 3.05777778e-7⟩,
    ⟨⟨1, 0⟩, 0.00798, 3.76888889e-7⟩,
    ⟨⟨1, 2⟩, 0.00711, 5.01333333e-7⟩,
    ⟨⟨1, 3⟩, 0.00731, 3.98222222e-7⟩,
    ⟨⟨2, 1⟩, 0.02104, 5.72444444e-7⟩,
    ⟨⟨3, 1⟩, 0.01359, 4.69333333e-7⟩,
    ⟨⟨3, 4⟩, 0.00827, 4.83555556e-7⟩,
    ⟨⟨4, 3⟩, 0.019, 5.54666667e-7⟩]

end PresetPipeline
